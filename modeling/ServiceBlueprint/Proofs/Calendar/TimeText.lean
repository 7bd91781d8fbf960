import ServiceBlueprint.Proofs.Calendar.Spelling

/-!
# Reading what is written as a time

A day, a `T`, a time of day with colons and thousandths of a second, and the offset of universal time
are read as just that time. Where the year has fewer than four digits nothing is read, since a sign
stands among the first four octets.
-/

namespace ServiceBlueprint.Calendar

open Text (toOctets)
open Date (padded)

/-! ### The time of day -/

/-- A time of day to the thousandth of a second. -/
def clockWithMillis (hour minute second milli : Nat) : String :=
  Timestamp.clockText hour minute second ++ "." ++ padded 3 milli

section

variable {hour minute second milli : Nat}

theorem readFraction_millis (hmilli : milli < 10 ^ 3) (after : Octets) :
    readFraction hour minute second (toOctets (padded 3 milli)) after =
      some ⟨hour, minute, second, milli * 1000, !(after.dropWhile isDigit).isEmpty⟩ := by
  have hlen := length_toOctets_padded (by omega) hmilli
  have htake := takeNumber_padded (by omega) hmilli ""
  rw [String.append_empty] at htake
  have hcount : min (toOctets (padded 3 milli)).length 6 = 3 := by omega
  have hdrop : (toOctets (padded 3 milli)).drop 6 = [] := List.drop_eq_nil_of_le (by omega)
  unfold readFraction
  simp only [hcount, hdrop, htake, Option.bind_eq_bind, Option.bind_some]
  rfl

theorem readClock_clockWithMillis (hhour : hour < 10 ^ 2) (hminute : minute < 10 ^ 2)
    (hsecond : second < 10 ^ 2) (hmilli : milli < 10 ^ 3) (after : Octets) :
    readClock (toOctets (clockWithMillis hour minute second milli)) after =
      some ⟨hour, minute, second, milli * 1000, !(after.dropWhile isDigit).isEmpty⟩ := by
  have hlen : ∀ {n : Nat}, n < 10 ^ 2 → ∀ t : String, ¬ (toOctets (padded 2 n ++ t)).length + 1 ≤ 1 := by
    intro n hn t
    rw [Text.toOctets_append, List.length_append, length_toOctets_padded (by omega) hn]
    omega
  have hlast : ¬ (toOctets (padded 3 milli)).length + 1 ≤ 1 := by
    rw [length_toOctets_padded (by omega) hmilli]
    omega
  have hcolon (t : String) : toOctets (":" ++ t) = code ':' :: toOctets t :=
    toOctets_singleton_append (c := ':') (by decide) t
  have hpoint (t : String) : toOctets ("." ++ t) = code '.' :: toOctets t :=
    toOctets_singleton_append (c := '.') (by decide) t
  have hcolons (rest : Octets) : startsWith ':' (code ':' :: rest) = true := rfl
  have hfraction (rest : Octets) : startsWith '.' (code '.' :: rest) = true := rfl
  have hnone (rest : Octets) : (startsWith '.' (code ':' :: rest) = false) ∧
      startsWith ',' (code ':' :: rest) = false := ⟨rfl, rfl⟩
  unfold readClock clockWithMillis Timestamp.clockText
  simp only [String.append_assoc, takeNumber_padded (by omega) hhour, hcolon,
    Option.bind_eq_bind, Option.bind_some, List.length_cons, hlen hminute, hlen hsecond, hlast,
    hcolons, hfraction, hnone, Bool.or_self, Bool.true_or, Bool.not_true, Bool.and_false,
    Bool.false_eq_true, if_false, if_true, List.drop_succ_cons,
    List.drop_zero, takeNumber_padded (by omega) hminute, takeNumber_padded (by omega) hsecond,
    hpoint]
  exact readFraction_millis hmilli after

/-! ### The offset -/

theorem not_isOffsetStart_padded {width n : Nat} (hw : 0 < width) (hn : n < 10 ^ width) :
    ∀ b ∈ toOctets (padded width n), (!isOffsetStart b) = true := by
  obtain ⟨-, hdigits, -⟩ := padded_spec hw hn
  rw [Text.toOctets_of_ascii hdigits.ascii]
  intro b hb
  obtain ⟨c, hc, rfl⟩ := List.mem_map.mp hb
  have hcode := code_of_isDigit (hdigits c hc)
  have hplus : code '+' = 43 := rfl
  have hminus : code '-' = 45 := rfl
  have hzone : code 'Z' = 90 := rfl
  rw [Bool.not_eq_true', isOffsetStart, hplus, hminus, hzone]
  simp only [Bool.or_eq_false_iff, beq_eq_false_iff_ne, ne_eq]
  omega

theorem not_isOffsetStart_sign {c : Char} (hc : c.toNat < 128)
    (hsign : isOffsetStart (code c) = false) :
    ∀ b ∈ toOctets (String.singleton c), (!isOffsetStart b) = true := by
  rw [toOctets_singleton hc, List.forall_mem_singleton, hsign]
  rfl

theorem not_isOffsetStart_clockWithMillis (hhour : hour < 10 ^ 2) (hminute : minute < 10 ^ 2)
    (hsecond : second < 10 ^ 2) (hmilli : milli < 10 ^ 3) :
    ∀ b ∈ toOctets (clockWithMillis hour minute second milli), (!isOffsetStart b) = true := by
  have hcolon : ∀ b ∈ toOctets ":", (!isOffsetStart b) = true :=
    not_isOffsetStart_sign (c := ':') (by decide) rfl
  have hpoint : ∀ b ∈ toOctets ".", (!isOffsetStart b) = true :=
    not_isOffsetStart_sign (c := '.') (by decide) rfl
  unfold clockWithMillis Timestamp.clockText
  simp only [Text.toOctets_append, List.forall_mem_append]
  exact ⟨⟨⟨⟨⟨⟨not_isOffsetStart_padded (by omega) hhour, hcolon⟩,
    not_isOffsetStart_padded (by omega) hminute⟩, hcolon⟩,
    not_isOffsetStart_padded (by omega) hsecond⟩, hpoint⟩, not_isOffsetStart_padded (by omega) hmilli⟩

theorem readClock_zone : readClock (toOctets "00:00") [] = some ⟨0, 0, 0, 0, false⟩ := by
  rw [Text.toOctets_of_ascii (by simp)]
  rfl

/-- The time of day ends where the offset of universal time starts. -/
theorem readTime_clockWithMillis (hhour : hour < 10 ^ 2) (hminute : minute < 10 ^ 2)
    (hsecond : second < 10 ^ 2) (hmilli : milli < 10 ^ 3) (date : Date) :
    readTime date (toOctets (clockWithMillis hour minute second milli ++ "+00:00")) =
      assemble date ⟨hour, minute, second, milli * 1000, true⟩ (some 0) := by
  have hclock := not_isOffsetStart_clockWithMillis hhour hminute hsecond hmilli
  have hplus : toOctets "+00:00" = code '+' :: toOctets "00:00" :=
    toOctets_singleton_append (c := '+') (by decide) "00:00"
  have hhere : (toOctets (clockWithMillis hour minute second milli ++ "+00:00")).takeWhile
      (!isOffsetStart ·) = toOctets (clockWithMillis hour minute second milli) := by
    rw [Text.toOctets_append, hplus, List.takeWhile_append_of_pos hclock,
      List.takeWhile_cons_of_neg (by decide), List.append_nil]
  unfold readTime
  simp only [hhere]
  rw [Text.toOctets_append, List.drop_left, hplus,
    readClock_clockWithMillis hhour hminute hsecond hmilli]
  simp only [Option.bind_eq_bind, Option.bind_some, readClock_zone]
  rfl

end

/-! ### Dates in front -/

theorem getElem?_zero_eq_startsWith (c : Char) (s : Octets) :
    ((s[0]?).map (· == code c)).getD false = startsWith c s := by
  cases s <;> rfl

theorem dateLength_isoText {d : Date} (h : d.isReal = true) (tail : String) :
    dateLength (toOctets (d.isoText ++ tail)) = 10 := by
  obtain ⟨hyear, hmonth, -⟩ := Date.bounds_of_isReal h
  have hlen : (toOctets (d.isoText ++ tail)).length = 10 + (toOctets tail).length :=
    Date.length_spelling_day h true tail
  have hsplit : toOctets (d.isoText ++ tail) = toOctets (padded 4 d.year) ++
      code '-' :: toOctets (padded 2 d.month ++ ("-" ++ (padded 2 d.day ++ tail))) := by
    unfold Date.isoText
    rw [← toOctets_singleton_append (c := '-') (by decide), ← Text.toOctets_append]
    simp only [String.append_assoc]
    rfl
  have hfront := length_toOctets_padded (by omega) hyear
  have hhyphen : (toOctets (d.isoText ++ tail))[4]? = some (code '-') := by
    rw [hsplit, List.getElem?_append_right (by omega), hfront]
    rfl
  have hweek : (((toOctets (d.isoText ++ tail))[5]?).map (· == code 'W')).getD false = false := by
    rw [hsplit, List.getElem?_append_right (by omega), hfront]
    change (((toOctets (padded 2 d.month ++ ("-" ++ (padded 2 d.day ++ tail))))[0]?).map
      (· == code 'W')).getD false = false
    rw [getElem?_zero_eq_startsWith]
    exact not_startsWith_padded (by decide) rfl (by omega) hmonth _
  unfold dateLength
  simp only [hlen, hhyphen, hweek]
  rw [if_neg (by omega)]
  rfl

/-- A written day and time of day of universal time are read as just these. -/
theorem readTimestamp?_isoText {d : Date} {hour minute second milli : Nat} (h : d.isReal = true)
    (hhour : hour < 24) (hminute : minute < 60) (hsecond : second < 60) (hmilli : milli < 10 ^ 3) :
    readTimestamp? (d.isoText ++ ("T" ++ (clockWithMillis hour minute second milli ++ "+00:00"))) =
      some ⟨d, hour, minute, second, milli * 1000, some 0⟩ := by
  generalize htail : "T" ++ (clockWithMillis hour minute second milli ++ "+00:00") = tail
  have hT : toOctets tail =
      code 'T' :: toOctets (clockWithMillis hour minute second milli ++ "+00:00") := by
    rw [← htail]
    exact toOctets_singleton_append (c := 'T') (by decide) _
  have hdate : (toOctets d.isoText).length = 10 := by
    have hlen := Date.length_spelling_day h true ""
    rwa [String.append_empty, Text.length_toOctets_eq_zero_iff.mpr rfl] at hlen
  have hdrop : (toOctets (d.isoText ++ tail)).drop 10 = toOctets tail := by
    rw [Text.toOctets_append, ← hdate, List.drop_left]
  have hreal : (⟨d, hour, minute, second, milli * 1000, some 0⟩ : Timestamp).isReal = true := by
    have hmicro : milli * 1000 < Timestamp.microsPerSecond := by
      unfold Timestamp.microsPerSecond
      omega
    unfold Timestamp.isReal
    simp only [h, hhour, hminute, hsecond, hmicro, decide_true, Bool.and_self]
    rfl
  have hlong : ¬ (toOctets (d.isoText ++ tail)).length < 7 := by
    rw [Text.toOctets_append, List.length_append, hdate]
    omega
  have hseparator : separatorLength (code 'T') = 1 := rfl
  have hread : readDateAt (toOctets (d.isoText ++ tail)) 10 = some d :=
    readDateAt_day h true tail 10
  unfold readTimestamp?
  simp only [if_neg hlong, dateLength_isoText h tail, hread, Option.bind_eq_bind,
    Option.bind_some, hdrop, hT, hseparator, Nat.sub_self, List.drop_zero]
  rw [readTime_clockWithMillis (by omega) (by omega) (by omega) hmilli]
  exact if_pos hreal

/-! ### Years of fewer than four digits -/

theorem allDigits_toString (n : Nat) : AllDigits (toString n).toList := by
  have hlist : (toString n).toList = Nat.toDigits 10 n := Nat.toList_repr
  rw [hlist]
  exact fun c hc => Nat.isDigit_of_mem_toDigits (by omega) (by omega) hc

theorem padded_succ_eq_toString {width n : Nat} (hw : 0 < width) (hn : 10 ^ width ≤ n) :
    padded (width + 1) n = toString n := by
  have hlen : ¬ (Nat.toDigits 10 n).length ≤ width := by
    rw [Nat.length_toDigits_le_iff (by omega) hw]
    omega
  unfold padded
  dsimp only
  rw [Nat.sub_eq_zero_of_le (by omega)]
  rfl

/-- The hyphen behind the year stands where its fourth digit should. -/
theorem takeNumber_year_eq_none {year : Nat} (hyear : year < 1000) (t : String) :
    takeNumber 4 (toOctets (toString year ++ ("-" ++ t))) 0 = none := by
  have hlen : (Nat.toDigits 10 year).length ≤ 3 :=
    (Nat.length_toDigits_le_iff (by omega) (by omega)).mpr hyear
  have hlist : (toString year).toList = Nat.toDigits 10 year := Nat.toList_repr
  have hoctets : toOctets (toString year ++ ("-" ++ t)) =
      (Nat.toDigits 10 year).map Char.toNat ++ code '-' :: toOctets t := by
    rw [Text.toOctets_append, Text.toOctets_of_ascii (allDigits_toString year).ascii, hlist,
      ← toOctets_singleton_append (c := '-') (by decide)]
    rfl
  have hsign : (toOctets (toString year ++ ("-" ++ t)))[(Nat.toDigits 10 year).length]? =
      some (code '-') := by
    rw [hoctets, List.getElem?_append_right (by simp), List.length_map, Nat.sub_self]
    rfl
  rw [Option.eq_none_iff_forall_ne_some]
  rintro ⟨n, rest⟩ htake
  obtain ⟨cs, hcs, hcount, hs, -⟩ := exists_of_takeNumber htake
  have hin : (Nat.toDigits 10 year).length < cs.length := by omega
  rw [hs, List.getElem?_append_left (by simpa using hin), List.getElem?_map,
    List.getElem?_eq_getElem hin] at hsign
  have hcode := code_of_isDigit (hcs _ (List.getElem_mem hin))
  have hhyphen : code '-' = 45 := rfl
  have hsame := Option.some.inj hsign
  omega

theorem readTimestamp?_eq_none {year : Nat} (hyear : year < 1000) (t : String) :
    readTimestamp? (toString year ++ ("-" ++ t)) = none := by
  unfold readTimestamp? readDateAt
  simp only [takeNumber_year_eq_none hyear, Option.bind_eq_bind, Option.bind_none]
  split <;> rfl

/-! ### Real timestamps -/

theorem isReal_of_assemble {date : Date} {clock : ClockReading} {offset : Option Int}
    {t : Timestamp} (h : assemble date clock offset = some t) : t.isReal = true := by
  unfold assemble at h
  dsimp only at h
  split at h
  next hreal =>
    cases h
    exact hreal
  next => cases h

theorem isReal_of_readTime {date : Date} {s : Octets} {t : Timestamp}
    (h : readTime date s = some t) : t.isReal = true := by
  unfold readTime at h
  obtain ⟨clock, -, h⟩ := Option.bind_eq_some_iff.mp h
  split at h
  next =>
    split at h
    next => cases h
    next => exact isReal_of_assemble h
  next =>
    split at h
    next =>
      split at h
      next => exact isReal_of_assemble h
      next => cases h
    next =>
      obtain ⟨zone, -, h⟩ := Option.bind_eq_some_iff.mp h
      split at h
      next => cases h
      next => exact isReal_of_assemble h

theorem isReal_of_readTimestamp? {s : String} {t : Timestamp} (h : readTimestamp? s = some t) :
    t.isReal = true := by
  unfold readTimestamp? at h
  dsimp only at h
  split at h
  next => cases h
  next =>
    obtain ⟨date, -, h⟩ := Option.bind_eq_some_iff.mp h
    split at h
    next => exact isReal_of_assemble h
    next => exact isReal_of_readTime h

end ServiceBlueprint.Calendar
