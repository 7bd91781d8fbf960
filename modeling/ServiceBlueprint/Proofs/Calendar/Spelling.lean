import ServiceBlueprint.Proofs.Calendar.DateText

/-!
# Spellings of a day

A day is read from its year, month and day or from its year, week and weekday, with hyphens between
the parts or without any. The weekday may be left out. Only the length of the text limits what
follows the last part, which is nothing after hyphens, and up to two octets otherwise.
-/

namespace ServiceBlueprint

namespace Date

/-- What stands between the parts of a date. -/
def hyphen (hyphens : Bool) : String :=
  if hyphens then "-" else ""

@[simp] theorem hyphen_false : hyphen false = "" := rfl

@[simp] theorem hyphen_true : hyphen true = "-" := rfl

/-- The spellings of a day, whatever follows. A week without a weekday stands for its Monday. -/
inductive Spells (hyphens : Bool) (d : Date) : String → Prop where
  | day (tail : String) (h : d.isReal = true) :
      Spells hyphens d (padded 4 d.year ++ hyphen hyphens ++ padded 2 d.month ++ hyphen hyphens ++
        padded 2 d.day ++ tail)
  | week {year week : Nat} (h : ofWeek? year week 1 = some d) :
      Spells hyphens d (padded 4 year ++ hyphen hyphens ++ "W" ++ padded 2 week)
  | weekday {year week day : Nat} (tail : String) (h : ofWeek? year week day = some d) :
      Spells hyphens d (padded 4 year ++ hyphen hyphens ++ "W" ++ padded 2 week ++
        hyphen hyphens ++ padded 1 day ++ tail)

theorem bounds_of_ofWeek? {year week day : Nat} {d : Date} (h : ofWeek? year week day = some d) :
    year < 10 ^ 4 ∧ week < 10 ^ 2 ∧ day < 10 ^ 1 := by
  have hmax : maxYear = 9999 := rfl
  unfold ofWeek? at h
  split at h
  next => cases h
  next hyear =>
    dsimp only at h
    split at h
    next => cases h
    next hweek =>
      split at h
      next => cases h
      next hday => omega

end Date

namespace Calendar

open Nat (ofDigitChars)
open Text (toOctets)
open Date (padded hyphen Spells)

/-! ### Runs of digits -/

theorem exists_of_takeNumber {count n m : Nat} {s rest : Octets}
    (h : takeNumber count s n = some (m, rest)) :
    ∃ cs, AllDigits cs ∧ cs.length = count ∧ s = cs.map Char.toNat ++ rest ∧
      m = ofDigitChars 10 cs n := by
  induction count generalizing s n with
  | zero =>
    cases h
    exact ⟨[], fun c hc => absurd hc List.not_mem_nil, rfl, rfl, rfl⟩
  | succ count ih =>
    cases s with
    | nil => cases h
    | cons b s =>
      rw [takeNumber] at h
      by_cases hb : isDigit b
      · rw [if_pos hb] at h
        obtain ⟨cs, hcs, hlen, rfl, rfl⟩ := ih h
        have hcode : 48 ≤ b ∧ b ≤ 57 := by simpa [isDigit] using hb
        have hvalue : (Char.ofNat b).toNat = b := Text.toNat_ofNat_of_ascii (by omega)
        refine ⟨Char.ofNat b :: cs, ?_, by rw [List.length_cons, hlen], ?_, ?_⟩
        · intro c hc
          rcases List.mem_cons.mp hc with rfl | hc
          · rw [Char.isDigit_iff_toNat, hvalue]
            exact hcode
          · exact hcs c hc
        · rw [List.map_cons, hvalue, List.cons_append]
        · rw [Nat.ofDigitChars_cons]
          change _ = ofDigitChars 10 cs (10 * n + ((Char.ofNat b).toNat - 48))
          rw [hvalue]
      · rw [if_neg hb] at h
        cases h

/-- A number is taken exactly where it is written with as many digits as are taken. -/
theorem takeNumber_eq_some_iff {count m : Nat} {s : String} {rest : Octets} (hcount : 0 < count) :
    takeNumber count (toOctets s) 0 = some (m, rest) ↔
      m < 10 ^ count ∧ ∃ t, s = padded count m ++ t ∧ toOctets t = rest := by
  constructor
  · intro h
    obtain ⟨cs, hcs, rfl, hs, rfl⟩ := exists_of_takeNumber h
    have hascii : ∀ c ∈ (String.ofList cs).toList, c.toNat < 128 := by
      rw [String.toList_ofList]
      exact hcs.ascii
    refine ⟨ofDigitChars_lt hcs, Text.exists_eq_append_of_toOctets ?_ ?_⟩
    · rwa [padded_ofDigitChars hcs hcount]
    · rw [padded_ofDigitChars hcs hcount, Text.toOctets_of_ascii hascii, String.toList_ofList, hs]
  · rintro ⟨hm, t, rfl, rfl⟩
    obtain ⟨hlen, hdigits, hvalue⟩ := padded_spec hcount hm
    have htake := takeNumber_digits hdigits (toOctets t) 0
    rwa [hlen, hvalue, ← Text.toOctets_of_ascii hdigits.ascii,
      ← Text.toOctets_append] at htake

theorem length_toOctets_padded {width n : Nat} (hw : 0 < width) (hn : n < 10 ^ width) :
    (toOctets (padded width n)).length = width := by
  obtain ⟨hlen, hdigits, -⟩ := padded_spec hw hn
  rw [Text.toOctets_of_ascii hdigits.ascii, List.length_map, hlen]

/-! ### Hyphens and other signs -/

theorem ascii_singleton {c : Char} (hc : c.toNat < 128) :
    ∀ d ∈ (String.singleton c).toList, d.toNat < 128 := by
  rw [String.toList_singleton, List.forall_mem_singleton]
  exact hc

theorem toOctets_singleton {c : Char} (hc : c.toNat < 128) :
    toOctets (String.singleton c) = [code c] := by
  rw [Text.toOctets_of_ascii (ascii_singleton hc), String.toList_singleton]
  rfl

theorem toOctets_singleton_append {c : Char} (hc : c.toNat < 128) (t : String) :
    toOctets (String.singleton c ++ t) = code c :: toOctets t := by
  rw [Text.toOctets_append, toOctets_singleton hc]
  rfl

theorem exists_of_startsWith {c : Char} (hc : c.toNat < 128) {s : String}
    (h : startsWith c (toOctets s) = true) : ∃ t, s = String.singleton c ++ t := by
  cases hs : toOctets s with
  | nil =>
    rw [hs] at h
    cases h
  | cons b rest =>
    rw [hs] at h
    have hoctets : toOctets s = toOctets (String.singleton c) ++ rest := by
      rw [toOctets_singleton hc, hs, eq_of_beq (h : (b == code c) = true)]
      rfl
    obtain ⟨t, ht, -⟩ := Text.exists_eq_append_of_toOctets (ascii_singleton hc) hoctets
    exact ⟨t, ht⟩

theorem startsWith_singleton_append {c : Char} (hc : c.toNat < 128) (t : String) :
    startsWith c (toOctets (String.singleton c ++ t)) = true := by
  rw [toOctets_singleton_append hc]
  exact beq_self_eq_true (code c)

/-- No run of digits begins with any other sign. -/
theorem not_startsWith_padded {c : Char} (hc : c.toNat < 128) (hdigit : c.isDigit = false)
    {width n : Nat} (hw : 0 < width) (hn : n < 10 ^ width) (t : String) :
    startsWith c (toOctets (padded width n ++ t)) = false := by
  rw [← Bool.not_eq_true]
  intro h
  obtain ⟨t', ht'⟩ := exists_of_startsWith hc h
  obtain ⟨hlen, hdigits, -⟩ := padded_spec hw hn
  have hchars : (padded width n).toList ++ t.toList = c :: t'.toList := by
    rw [← String.toList_append, ht', String.toList_append, String.toList_singleton]
    rfl
  cases hcs : (padded width n).toList with
  | nil =>
    rw [hcs] at hlen
    exact absurd hlen (Nat.ne_of_lt hw)
  | cons d ds =>
    rw [hcs, List.cons_append, List.cons_eq_cons] at hchars
    have hd : d.isDigit = true := hdigits d (hcs ▸ List.mem_cons_self)
    rw [hchars.1, hdigit] at hd
    cases hd

theorem takeHyphen_eq_some_iff {hyphens : Bool} {s : String} {rest : Octets} :
    takeHyphen hyphens (toOctets s) = some rest ↔
      ∃ t, s = hyphen hyphens ++ t ∧ toOctets t = rest := by
  have hascii : '-'.toNat < 128 := by decide
  cases hyphens with
  | false =>
    change some (toOctets s) = some rest ↔ ∃ t, s = "" ++ t ∧ toOctets t = rest
    simp
  | true =>
    change (if startsWith '-' (toOctets s) then some ((toOctets s).drop 1) else none) = some rest ↔
      ∃ t, s = String.singleton '-' ++ t ∧ toOctets t = rest
    constructor
    · intro h
      by_cases hstart : startsWith '-' (toOctets s)
      · obtain ⟨t, rfl⟩ := exists_of_startsWith hascii hstart
        rw [if_pos hstart, toOctets_singleton_append hascii] at h
        exact ⟨t, rfl, Option.some.inj h⟩
      · rw [if_neg hstart] at h
        cases h
    · rintro ⟨t, rfl, rfl⟩
      rw [if_pos (startsWith_singleton_append hascii t), toOctets_singleton_append hascii]
      rfl

/-- What is left behind the first hyphen, if there is one. -/
theorem exists_hyphen_append (s : String) : ∃ t, s = hyphen (startsWith '-' (toOctets s)) ++ t ∧
    (if startsWith '-' (toOctets s) then (toOctets s).drop 1 else toOctets s) = toOctets t := by
  have hascii : '-'.toNat < 128 := by decide
  cases h : startsWith '-' (toOctets s) with
  | false => exact ⟨s, String.empty_append.symm, rfl⟩
  | true =>
    obtain ⟨t, rfl⟩ := exists_of_startsWith hascii h
    rw [toOctets_singleton_append hascii]
    exact ⟨t, rfl, rfl⟩

/-! ### Reading -/

/-- A text from which a day is read is a spelling of that day. -/
theorem spells_of_readDate? {s : String} {d : Date} (h : readDate? s = some d) :
    ∃ hyphens, d.Spells hyphens s := by
  unfold readDate? at h
  dsimp only at h
  split at h
  next hlength =>
    unfold readDateAt at h
    obtain ⟨⟨year, rest⟩, hyear, h⟩ := Option.bind_eq_some_iff.mp h
    obtain ⟨-, s₁, hs, rfl⟩ := (takeNumber_eq_some_iff (by omega)).mp hyear
    obtain ⟨s₂, hs₁, hparts⟩ := exists_hyphen_append s₁
    dsimp only at h
    rw [hparts] at h
    generalize startsWith '-' (toOctets s₁) = hyphens at h hs₁
    refine ⟨hyphens, ?_⟩
    split at h
    next hweek =>
      have hascii : 'W'.toNat < 128 := by decide
      have hsingleton : String.singleton 'W' = "W" := rfl
      obtain ⟨s₃, rfl⟩ := exists_of_startsWith hascii hweek
      rw [toOctets_singleton_append hascii, List.drop_succ_cons, List.drop_zero] at h
      obtain ⟨⟨week, rest⟩, hnumber, h⟩ := Option.bind_eq_some_iff.mp h
      obtain ⟨-, s₄, rfl, rfl⟩ := (takeNumber_eq_some_iff (by omega)).mp hnumber
      dsimp only at h
      split at h
      next =>
        obtain ⟨rest, hhyphen, h⟩ := Option.bind_eq_some_iff.mp h
        obtain ⟨s₅, rfl, rfl⟩ := takeHyphen_eq_some_iff.mp hhyphen
        obtain ⟨⟨day, rest⟩, hday, h⟩ := Option.bind_eq_some_iff.mp h
        obtain ⟨-, tail, rfl, rfl⟩ := (takeNumber_eq_some_iff (by omega)).mp hday
        have hspells : d.Spells hyphens _ := .weekday tail h
        simpa only [hs, hs₁, hsingleton, String.append_assoc] using hspells
      next hshort =>
        have hnone : (toOctets s₄).length = 0 := by omega
        have hspells : d.Spells hyphens _ := .week h
        rw [Text.length_toOctets_eq_zero_iff] at hnone
        simpa only [hs, hs₁, hsingleton, hnone, String.append_assoc, String.append_empty]
          using hspells
    next =>
      obtain ⟨⟨month, rest⟩, hnumber, h⟩ := Option.bind_eq_some_iff.mp h
      obtain ⟨-, s₃, rfl, rfl⟩ := (takeNumber_eq_some_iff (by omega)).mp hnumber
      obtain ⟨rest, hhyphen, h⟩ := Option.bind_eq_some_iff.mp h
      obtain ⟨s₄, rfl, rfl⟩ := takeHyphen_eq_some_iff.mp hhyphen
      obtain ⟨⟨day, rest⟩, hday, h⟩ := Option.bind_eq_some_iff.mp h
      obtain ⟨-, tail, rfl, rfl⟩ := (takeNumber_eq_some_iff (by omega)).mp hday
      obtain ⟨rfl, hreal⟩ := Date.real?_eq_some_iff.mp h
      have hspells : Spells hyphens ⟨year, month, day⟩ _ := .day tail hreal
      simpa only [hs, hs₁, String.append_assoc] using hspells
  next => cases h

theorem takeNumber_padded {width n : Nat} (hw : 0 < width) (hn : n < 10 ^ width) (t : String) :
    takeNumber width (toOctets (padded width n ++ t)) 0 = some (n, toOctets t) :=
  (takeNumber_eq_some_iff hw).mpr ⟨hn, t, rfl, rfl⟩

theorem takeHyphen_hyphen (hyphens : Bool) (t : String) :
    takeHyphen hyphens (toOctets (hyphen hyphens ++ t)) = some (toOctets t) :=
  takeHyphen_eq_some_iff.mpr ⟨t, rfl, rfl⟩

theorem startsWith_hyphen {hyphens : Bool} {t : String}
    (h : startsWith '-' (toOctets t) = false) :
    startsWith '-' (toOctets (hyphen hyphens ++ t)) = hyphens := by
  cases hyphens with
  | false => rwa [hyphen, if_neg Bool.false_ne_true, String.empty_append]
  | true => exact startsWith_singleton_append (by decide) t

theorem drop_hyphen (hyphens : Bool) (t : String) :
    (if hyphens then (toOctets (hyphen hyphens ++ t)).drop 1
      else toOctets (hyphen hyphens ++ t)) = toOctets t := by
  cases hyphens with
  | false => rw [if_neg Bool.false_ne_true, hyphen, if_neg Bool.false_ne_true, String.empty_append]
  | true =>
    change (toOctets (String.singleton '-' ++ t)).drop 1 = _
    rw [toOctets_singleton_append (by decide)]
    rfl

theorem startsWith_week (t : String) :
    startsWith '-' (toOctets ("W" ++ t)) = false ∧ startsWith 'W' (toOctets ("W" ++ t)) = true ∧
      (toOctets ("W" ++ t)).drop 1 = toOctets t := by
  have hascii : 'W'.toNat < 128 := by decide
  have hoctets : toOctets ("W" ++ t) = code 'W' :: toOctets t := toOctets_singleton_append hascii t
  rw [hoctets]
  exact ⟨rfl, rfl, rfl⟩

/-- Only texts of these lengths are read as dates at all. -/
def HasDateLength (s : String) : Prop :=
  (toOctets s).length = 7 ∨ (toOctets s).length = 8 ∨ (toOctets s).length = 10

/-- Where year, month and day come first, what follows is not looked at. -/
theorem readDateAt_day {d : Date} (h : d.isReal = true) (hyphens : Bool) (tail : String)
    (length : Nat) :
    readDateAt (toOctets (padded 4 d.year ++ hyphen hyphens ++ padded 2 d.month ++
      hyphen hyphens ++ padded 2 d.day ++ tail)) length = some d := by
  have hW : 'W'.toNat < 128 := by decide
  obtain ⟨hyear, hmonth, hday⟩ := Date.bounds_of_isReal h
  have hsign : ∀ c : Char, c.toNat < 128 → c.isDigit = false → ∀ t,
      startsWith c (toOctets (padded 2 d.month ++ t)) = false :=
    fun c hc hdigit t => not_startsWith_padded hc hdigit (by omega) hmonth t
  unfold readDateAt
  simp only [String.append_assoc, takeNumber_padded (by omega) hyear,
    startsWith_hyphen (hsign '-' (by decide) rfl _), drop_hyphen, Option.bind_eq_bind,
    Option.bind_some, hsign 'W' hW rfl _, if_neg Bool.false_ne_true,
    takeNumber_padded (by omega) hmonth, takeHyphen_hyphen, takeNumber_padded (by omega) hday]
  exact Date.real?_eq_some_iff.mpr ⟨rfl, h⟩

/-- Every spelling of a day that has the right length is read as that day. -/
theorem readDate?_of_spells {s : String} {d : Date} {hyphens : Bool} (hlength : HasDateLength s)
    (h : d.Spells hyphens s) : readDate? s = some d := by
  unfold HasDateLength at hlength
  unfold readDate?
  dsimp only
  rw [if_pos hlength]
  cases h with
  | day tail hreal => exact readDateAt_day hreal hyphens tail _
  | @week year week hweek =>
    obtain ⟨hyear, hnumber, -⟩ := Date.bounds_of_ofWeek? hweek
    obtain ⟨hhyphen, hstart, hdrop⟩ := startsWith_week (padded 2 week)
    have htake : takeNumber 2 (toOctets (padded 2 week)) 0 = some (week, toOctets "") := by
      rw [← takeNumber_padded (by omega) hnumber, String.append_empty]
    have hnone : toOctets "" = [] := Text.toOctets_eq_nil_iff.mpr rfl
    unfold readDateAt
    simp only [String.append_assoc, takeNumber_padded (by omega) hyear, startsWith_hyphen hhyphen,
      drop_hyphen, Option.bind_eq_bind, Option.bind_some, if_pos hstart, hdrop, htake, hnone,
      List.length_nil, Nat.sub_zero, Nat.lt_irrefl, if_false]
    exact hweek
  | @weekday year week day tail hweek =>
    obtain ⟨hyear, hnumber, hday⟩ := Date.bounds_of_ofWeek? hweek
    obtain ⟨hhyphen, hstart, hdrop⟩ :=
      startsWith_week (padded 2 week ++ (hyphen hyphens ++ (padded 1 day ++ tail)))
    simp only [String.append_assoc] at hlength ⊢
    have hlonger : 0 < (toOctets (hyphen hyphens ++ (padded 1 day ++ tail))).length := by
      have hdigit := length_toOctets_padded (by omega) hday
      simp only [Text.toOctets_append, List.length_append]
      omega
    have hpositive : 0 < (toOctets (padded 4 year ++ (hyphen hyphens ++ ("W" ++ (padded 2 week ++
        (hyphen hyphens ++ (padded 1 day ++ tail))))))).length := by omega
    unfold readDateAt
    simp only [takeNumber_padded (by omega) hyear, startsWith_hyphen hhyphen, drop_hyphen,
      Option.bind_eq_bind, Option.bind_some, if_pos hstart, hdrop,
      takeNumber_padded (by omega) hnumber, if_pos (Nat.sub_lt hpositive hlonger),
      takeHyphen_hyphen, takeNumber_padded (by omega) hday]
    exact hweek

/-! ### Other spellings -/

theorem hasDateLength_of_readDate? {s : String} {d : Date} (h : readDate? s = some d) :
    HasDateLength s := by
  unfold readDate? at h
  dsimp only at h
  split at h
  next hlength => exact hlength
  next => cases h

theorem length_sign {c : Char} (hc : c.toNat < 128) :
    (toOctets (String.singleton c)).length = 1 := by
  rw [toOctets_singleton hc]
  rfl

theorem length_hyphen (hyphens : Bool) :
    (toOctets (hyphen hyphens)).length = if hyphens then 1 else 0 := by
  have hascii : '-'.toNat < 128 := by decide
  cases hyphens with
  | false => exact Text.length_toOctets_eq_zero_iff.mpr rfl
  | true => exact length_sign hascii

theorem length_week : (toOctets "W").length = 1 := by
  have hascii : 'W'.toNat < 128 := by decide
  exact length_sign hascii

end Calendar

namespace Date

open Text (toOctets)
open Calendar

/-- The spellings of a day other than `YYYY-MM-DD` that are read as that day. What may follow when
there are no hyphens is not looked at. -/
inductive Respelt (d : Date) : String → Prop where
  | compact (tail : String) (htail : (toOctets tail).length = 0 ∨ (toOctets tail).length = 2)
      (h : d.isReal = true) :
      Respelt d (padded 4 d.year ++ padded 2 d.month ++ padded 2 d.day ++ tail)
  | week {year week : Nat} (h : ofWeek? year week 1 = some d) :
      Respelt d (padded 4 year ++ "-W" ++ padded 2 week)
  | compactWeek {year week : Nat} (h : ofWeek? year week 1 = some d) :
      Respelt d (padded 4 year ++ "W" ++ padded 2 week)
  | weekday {year week day : Nat} (h : ofWeek? year week day = some d) :
      Respelt d (padded 4 year ++ "-W" ++ padded 2 week ++ "-" ++ padded 1 day)
  | compactWeekday {year week day : Nat} (tail : String)
      (htail : (toOctets tail).length = 0 ∨ (toOctets tail).length = 2)
      (h : ofWeek? year week day = some d) :
      Respelt d (padded 4 year ++ "W" ++ padded 2 week ++ padded 1 day ++ tail)

theorem hyphen_week : "-W" = hyphen true ++ "W" := rfl

section

variable {d : Date} {year week day : Nat}

theorem length_spelling_day (h : d.isReal = true) (hyphens : Bool) (tail : String) :
    (toOctets (padded 4 d.year ++ hyphen hyphens ++ padded 2 d.month ++ hyphen hyphens ++
      padded 2 d.day ++ tail)).length =
      (if hyphens then 10 else 8) + (toOctets tail).length := by
  obtain ⟨hyear, hmonth, hday⟩ := bounds_of_isReal h
  simp only [Text.toOctets_append, List.length_append, length_hyphen,
    length_toOctets_padded (by omega) hyear, length_toOctets_padded (by omega) hmonth,
    length_toOctets_padded (by omega) hday]
  cases hyphens <;> simp

theorem length_spelling_week (h : ofWeek? year week 1 = some d) (hyphens : Bool) :
    (toOctets (padded 4 year ++ hyphen hyphens ++ "W" ++ padded 2 week)).length =
      if hyphens then 8 else 7 := by
  obtain ⟨hyear, hnumber, -⟩ := bounds_of_ofWeek? h
  simp only [Text.toOctets_append, List.length_append, length_hyphen, length_week,
    length_toOctets_padded (by omega) hyear, length_toOctets_padded (by omega) hnumber]
  cases hyphens <;> simp

theorem length_spelling_weekday (h : ofWeek? year week day = some d) (hyphens : Bool)
    (tail : String) :
    (toOctets (padded 4 year ++ hyphen hyphens ++ "W" ++ padded 2 week ++ hyphen hyphens ++
      padded 1 day ++ tail)).length = (if hyphens then 10 else 8) + (toOctets tail).length := by
  obtain ⟨hyear, hnumber, hday⟩ := bounds_of_ofWeek? h
  simp only [Text.toOctets_append, List.length_append, length_hyphen, length_week,
    length_toOctets_padded (by omega) hyear, length_toOctets_padded (by omega) hnumber,
    length_toOctets_padded (by omega) hday]
  cases hyphens <;> simp

/-- With the right length a text spells a day either as `YYYY-MM-DD` or in one of the other ways. -/
theorem Spells.respelt {hyphens : Bool} {s : String} (h : d.Spells hyphens s)
    (hlength : HasDateLength s) : d.isReal = true ∧ s = d.isoText ∨ d.Respelt s := by
  unfold HasDateLength at hlength
  cases h with
  | day tail hreal =>
    rw [length_spelling_day hreal] at hlength
    cases hyphens with
    | false =>
      rw [if_neg Bool.false_ne_true] at hlength
      have hrespelt := Respelt.compact tail (by omega) hreal
      simpa only [hyphen_false, String.append_empty] using Or.inr hrespelt
    | true =>
      rw [if_pos rfl] at hlength
      have hnone : (toOctets tail).length = 0 := by omega
      rw [Text.length_toOctets_eq_zero_iff] at hnone
      rw [hnone, String.append_empty]
      exact Or.inl ⟨hreal, rfl⟩
  | week hweek =>
    cases hyphens with
    | false =>
      simpa only [hyphen_false, String.append_empty] using Or.inr (Respelt.compactWeek hweek)
    | true =>
      simpa only [hyphen_week, String.append_assoc] using Or.inr (Respelt.week hweek)
  | weekday tail hweek =>
    rw [length_spelling_weekday hweek] at hlength
    cases hyphens with
    | false =>
      rw [if_neg Bool.false_ne_true] at hlength
      have hrespelt := Respelt.compactWeekday tail (by omega) hweek
      simpa only [hyphen_false, String.append_empty] using Or.inr hrespelt
    | true =>
      rw [if_pos rfl] at hlength
      have hnone : (toOctets tail).length = 0 := by omega
      rw [Text.length_toOctets_eq_zero_iff] at hnone
      rw [hnone]
      simpa only [hyphen_week, hyphen_true, String.append_assoc, String.append_empty] using
        Or.inr (Respelt.weekday hweek)

theorem Respelt.spells {s : String} (h : d.Respelt s) :
    HasDateLength s ∧ ∃ hyphens, d.Spells hyphens s := by
  unfold HasDateLength
  cases h with
  | compact tail htail hreal =>
    have hspells : d.Spells false _ := .day tail hreal
    have hlength := length_spelling_day hreal false tail
    rw [if_neg Bool.false_ne_true] at hlength
    simp only [hyphen_false, String.append_empty] at hspells hlength
    exact ⟨by omega, false, hspells⟩
  | week hweek =>
    have hspells : d.Spells true _ := .week hweek
    have hlength := length_spelling_week hweek true
    rw [if_pos rfl] at hlength
    simp only [hyphen_week, ← String.append_assoc]
    exact ⟨by omega, true, hspells⟩
  | compactWeek hweek =>
    have hspells : d.Spells false _ := .week hweek
    have hlength := length_spelling_week hweek false
    rw [if_neg Bool.false_ne_true] at hlength
    simp only [hyphen_false, String.append_empty] at hspells hlength
    exact ⟨by omega, false, hspells⟩
  | weekday hweek =>
    have hspells : d.Spells true _ := .weekday "" hweek
    have hlength := length_spelling_weekday hweek true ""
    have hnone : (toOctets "").length = 0 := Text.length_toOctets_eq_zero_iff.mpr rfl
    rw [if_pos rfl, hnone] at hlength
    simp only [hyphen_true, String.append_empty] at hspells hlength
    simp only [hyphen_week, hyphen_true, ← String.append_assoc]
    exact ⟨by omega, true, hspells⟩
  | compactWeekday tail htail hweek =>
    have hspells : d.Spells false _ := .weekday tail hweek
    have hlength := length_spelling_weekday hweek false tail
    rw [if_neg Bool.false_ne_true] at hlength
    simp only [hyphen_false, String.append_empty] at hspells hlength
    exact ⟨by omega, false, hspells⟩

/-- A day is read from just its spellings. -/
theorem readDate?_eq_some_iff {s : String} :
    readDate? s = some d ↔ d.isReal = true ∧ s = d.isoText ∨ d.Respelt s := by
  constructor
  · intro h
    obtain ⟨hyphens, hspells⟩ := spells_of_readDate? h
    exact hspells.respelt (hasDateLength_of_readDate? h)
  · rintro (⟨hreal, rfl⟩ | hrespelt)
    · exact readDate?_isoText hreal
    · obtain ⟨hlength, hyphens, hspells⟩ := hrespelt.spells
      exact readDate?_of_spells hlength hspells

/-- Behind its year a day of the calendar has a hyphen and then its month. -/
theorem exists_eq_of_isoText_eq {e : Date} (he : e.isReal = true) (hyear : year < 10 ^ 4)
    {t : String} (h : padded 4 year ++ t = e.isoText) :
    ∃ rest, t = "-" ++ (padded 2 e.month ++ rest) := by
  refine ⟨"-" ++ padded 2 e.day, ?_⟩
  have hlength : (padded 4 year).toList.length = (padded 4 e.year).toList.length := by
    rw [(padded_spec (by omega) hyear).1, (padded_spec (by omega) (bounds_of_isReal he).1).1]
  have hlist := congrArg String.toList h
  simp only [isoText, String.append_assoc] at hlist
  rw [String.toList_append, String.toList_append] at hlist
  exact String.toList_injective (List.append_inj_right hlist hlength)

theorem ne_isoText_of_not_startsWith {e : Date} (he : e.isReal = true) (hyear : year < 10 ^ 4)
    {t : String} (ht : startsWith '-' (toOctets t) = false) : padded 4 year ++ t ≠ e.isoText := by
  intro h
  obtain ⟨rest, rfl⟩ := exists_eq_of_isoText_eq he hyear h
  have hstart : startsWith '-' (toOctets ("-" ++ (padded 2 e.month ++ rest))) = true :=
    startsWith_singleton_append (by decide) _
  rw [ht] at hstart
  cases hstart

theorem ne_isoText_of_week {e : Date} (he : e.isReal = true) (hyear : year < 10 ^ 4) (t : String) :
    padded 4 year ++ ("-" ++ ("W" ++ t)) ≠ e.isoText := by
  intro h
  obtain ⟨rest, hrest⟩ := exists_eq_of_isoText_eq he hyear h
  have hmonth : "W" ++ t = padded 2 e.month ++ rest := (String.append_right_inj "-").mp hrest
  have hstart := (startsWith_week t).2.1
  rw [hmonth, not_startsWith_padded (by decide) rfl (by omega) (bounds_of_isReal he).2.1] at hstart
  cases hstart

/-- No other spelling is one as `YYYY-MM-DD`, of whatever day. -/
theorem Respelt.ne_isoText {s : String} (h : d.Respelt s) {e : Date} (he : e.isReal = true) :
    s ≠ e.isoText := by
  cases h with
  | compact tail htail hreal =>
    obtain ⟨hyear, hmonth, -⟩ := bounds_of_isReal hreal
    simp only [String.append_assoc]
    exact ne_isoText_of_not_startsWith he hyear
      (not_startsWith_padded (by decide) rfl (by omega) hmonth _)
  | week hweek =>
    simp only [hyphen_week, hyphen_true, String.append_assoc]
    exact ne_isoText_of_week he (bounds_of_ofWeek? hweek).1 _
  | compactWeek hweek =>
    simp only [String.append_assoc]
    exact ne_isoText_of_not_startsWith he (bounds_of_ofWeek? hweek).1 (startsWith_week _).1
  | weekday hweek =>
    simp only [hyphen_week, hyphen_true, String.append_assoc]
    exact ne_isoText_of_week he (bounds_of_ofWeek? hweek).1 _
  | compactWeekday tail htail hweek =>
    simp only [String.append_assoc]
    exact ne_isoText_of_not_startsWith he (bounds_of_ofWeek? hweek).1 (startsWith_week _).1

end

end Date

end ServiceBlueprint
