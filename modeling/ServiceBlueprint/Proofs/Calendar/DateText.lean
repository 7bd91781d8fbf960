import Mathlib.Algebra.Group.Nat.Defs
import ServiceBlueprint.Calendar.Reading
import ServiceBlueprint.Proofs.Text.Octets

/-!
# Dates as text

Numbers are written with a fixed count of digits, and equally long runs of digits are equal when
they stand for the same number. So a text of the shape `YYYY-MM-DD` is read as a date exactly if it
is how a real date is written.
-/

namespace ServiceBlueprint

open Nat (ofDigitChars)

/-! ### Runs of digits -/

def AllDigits (cs : List Char) : Prop := ∀ c ∈ cs, c.isDigit = true

theorem code_of_isDigit {c : Char} (h : c.isDigit = true) : 48 ≤ c.toNat ∧ c.toNat ≤ 57 :=
  Char.isDigit_iff_toNat.mp h

theorem AllDigits.ascii {cs : List Char} (h : AllDigits cs) : ∀ c ∈ cs, c.toNat < 128 := by
  intro c hc
  have hcode := code_of_isDigit (h c hc)
  omega

/-- The numbers before the runs agree as well, so that the last digits can be cut off one by one. -/
theorem AllDigits.eq_of_ofDigitChars_eq {cs ds : List Char} (hc : AllDigits cs) (hd : AllDigits ds)
    (hlen : cs.length = ds.length) {a b : Nat} (h : ofDigitChars 10 cs a = ofDigitChars 10 ds b) :
    a = b ∧ cs = ds := by
  induction cs generalizing ds a b with
  | nil =>
    obtain rfl := List.length_eq_zero_iff.mp hlen.symm
    exact ⟨h, rfl⟩
  | cons c cs ih =>
    match ds with
    | [] => cases hlen
    | d :: ds =>
      rw [Nat.ofDigitChars_cons, Nat.ofDigitChars_cons] at h
      obtain ⟨hinit, hrest⟩ := ih (fun c' hc' => hc c' (List.mem_cons_of_mem _ hc'))
        (fun d' hd' => hd d' (List.mem_cons_of_mem _ hd')) (Nat.succ.inj hlen) h
      have hcode := code_of_isDigit (hc c List.mem_cons_self)
      have hcode' := code_of_isDigit (hd d List.mem_cons_self)
      change 10 * a + (c.toNat - 48) = 10 * b + (d.toNat - 48) at hinit
      have hchar : c.toNat = d.toNat := by omega
      exact ⟨by omega, by rw [Char.toNat_inj.mp hchar, hrest]⟩

/-- A number that is not too long is padded to a run of the given length that stands for it. -/
theorem padded_spec {width n : Nat} (hw : 0 < width) (hn : n < 10 ^ width) :
    (Date.padded width n).toList.length = width ∧ AllDigits (Date.padded width n).toList ∧
      ofDigitChars 10 (Date.padded width n).toList 0 = n := by
  have hlen : (Nat.toDigits 10 n).length ≤ width :=
    (Nat.length_toDigits_le_iff (by omega) hw).mpr hn
  unfold Date.padded
  rw [String.toList_ofList]
  refine ⟨?_, ?_, ?_⟩
  · rw [List.length_append, List.length_replicate]
    omega
  · intro c hc
    rcases List.mem_append.mp hc with hc | hc
    · rw [List.eq_of_mem_replicate hc]
      rfl
    · exact Nat.isDigit_of_mem_toDigits (by omega) (by omega) hc
  · rw [Nat.ofDigitChars_append, Nat.ofDigitChars_replicate_zero, Nat.mul_zero,
      Nat.ofDigitChars_ten_toDigits]

theorem ofDigitChars_lt {cs : List Char} (hc : AllDigits cs) :
    ofDigitChars 10 cs 0 < 10 ^ cs.length := by
  induction cs with
  | nil => decide
  | cons c cs ih =>
    have hcode := code_of_isDigit (hc c List.mem_cons_self)
    have hrest := ih fun c' hc' => hc c' (List.mem_cons_of_mem _ hc')
    have hfirst : (c.toNat - 48) * 10 ^ cs.length ≤ 9 * 10 ^ cs.length :=
      Nat.mul_le_mul_right _ (by omega)
    rw [Nat.ofDigitChars_cons, Nat.ofDigitChars_eq_ofDigitChars_zero, List.length_cons,
      Nat.pow_succ, Nat.mul_zero, Nat.zero_add, Nat.mul_comm]
    change (c.toNat - 48) * 10 ^ cs.length + _ < _
    omega

theorem padded_ofDigitChars {cs : List Char} (hc : AllDigits cs) (hne : 0 < cs.length) :
    Date.padded cs.length (ofDigitChars 10 cs 0) = String.ofList cs := by
  obtain ⟨hlen, hdigits, hvalue⟩ := padded_spec hne (ofDigitChars_lt hc)
  apply String.toList_injective
  rw [String.toList_ofList]
  exact (hdigits.eq_of_ofDigitChars_eq hc hlen hvalue).2

/-! ### Reading -/

namespace Calendar

theorem takeNumber_digits {cs : List Char} (hc : AllDigits cs) (rest : Octets) (n : Nat) :
    takeNumber cs.length (cs.map Char.toNat ++ rest) n = some (ofDigitChars 10 cs n, rest) := by
  induction cs generalizing n with
  | nil => rfl
  | cons c cs ih =>
    have hcode := code_of_isDigit (hc c List.mem_cons_self)
    have hdigit : isDigit c.toNat = true := by
      simpa [isDigit] using hcode
    rw [List.length_cons, List.map_cons, List.cons_append, takeNumber, if_pos hdigit,
      ih fun c' hc' => hc c' (List.mem_cons_of_mem _ hc'), Nat.ofDigitChars_cons]
    rfl

theorem readDateAt_of_digits {ys ms ds : List Char} (hy : AllDigits ys) (hm : AllDigits ms)
    (hd : AllDigits ds) (hylen : ys.length = 4) (hmlen : ms.length = 2) (hdlen : ds.length = 2)
    (length : Nat) :
    readDateAt (ys.map Char.toNat ++ code '-' ::
        (ms.map Char.toNat ++ code '-' :: (ds.map Char.toNat ++ []))) length =
      Date.real? (ofDigitChars 10 ys 0) (ofDigitChars 10 ms 0) (ofDigitChars 10 ds 0) := by
  have hyear := takeNumber_digits hy
    (code '-' :: (ms.map Char.toNat ++ code '-' :: (ds.map Char.toNat ++ []))) 0
  have hmonth := takeNumber_digits hm (code '-' :: (ds.map Char.toNat ++ [])) 0
  have hday := takeNumber_digits hd [] 0
  rw [hylen] at hyear
  rw [hmlen] at hmonth
  rw [hdlen] at hday
  have hweek : startsWith 'W'
      (ms.map Char.toNat ++ code '-' :: (ds.map Char.toNat ++ [])) = false := by
    match ms, hmlen with
    | c :: cs, _ =>
      have hcode := code_of_isDigit (hm c List.mem_cons_self)
      simp [startsWith, code]
      omega
  have hhyphen : ∀ rest, startsWith '-' (code '-' :: rest) = true := fun _ => rfl
  unfold readDateAt
  rw [hyear]
  simp only [Option.bind_eq_bind, Option.bind_some, hhyphen, if_true, List.drop_succ_cons,
    List.drop_zero, hweek, Bool.false_eq_true, if_false, hmonth, takeHyphen, Bool.not_true, hday]

/-- Where year, month and day are runs of digits of the right lengths, a date is read from them. -/
theorem readDate?_of_digits {s : String} {ys ms ds : List Char}
    (hs : s.toList = ys ++ '-' :: (ms ++ '-' :: ds)) (hy : AllDigits ys) (hm : AllDigits ms)
    (hd : AllDigits ds) (hylen : ys.length = 4) (hmlen : ms.length = 2) (hdlen : ds.length = 2) :
    readDate? s =
      Date.real? (ofDigitChars 10 ys 0) (ofDigitChars 10 ms 0) (ofDigitChars 10 ds 0) := by
  have hascii : ∀ c ∈ s.toList, c.toNat < 128 := by
    intro c hc
    rw [hs] at hc
    simp only [List.mem_append, List.mem_cons] at hc
    rcases hc with hc | rfl | hc | rfl | hc
    · exact hy.ascii c hc
    · decide
    · exact hm.ascii c hc
    · decide
    · exact hd.ascii c hc
  have hoctets : Text.toOctets s = ys.map Char.toNat ++ code '-' ::
      (ms.map Char.toNat ++ code '-' :: (ds.map Char.toNat ++ [])) := by
    rw [Text.toOctets_of_ascii hascii, hs]
    simp [code]
  have hlen : (Text.toOctets s).length = 10 := by
    rw [hoctets]
    simp [hylen, hmlen, hdlen]
  change (if (Text.toOctets s).length = 7 ∨ (Text.toOctets s).length = 8 ∨
    (Text.toOctets s).length = 10 then _ else _) = _
  rw [if_pos (Or.inr (Or.inr hlen)), hoctets]
  exact readDateAt_of_digits hy hm hd hylen hmlen hdlen _

end Calendar

/-! ### Real dates -/

namespace Date

theorem real?_eq_some_iff {year month day : Nat} {d : Date} :
    real? year month day = some d ↔ d = ⟨year, month, day⟩ ∧ d.isReal = true := by
  unfold real?
  by_cases h : (⟨year, month, day⟩ : Date).isReal
  · rw [if_pos h]
    constructor
    · intro heq
      cases heq
      exact ⟨rfl, h⟩
    · rintro ⟨rfl, -⟩
      rfl
  · rw [if_neg h]
    constructor
    · intro heq
      cases heq
    · rintro ⟨rfl, h'⟩
      exact absurd h' h

theorem daysInMonth_le (year month : Nat) : daysInMonth year month ≤ 31 := by
  have hall : ∀ n ∈ monthLengths year, n ≤ 31 := by
    unfold monthLengths
    cases isLeap year <;> decide
  unfold daysInMonth
  cases h : (monthLengths year)[month - 1]? with
  | none => exact Nat.zero_le 31
  | some n => exact hall n (List.mem_of_getElem? h)

theorem bounds_of_isReal {d : Date} (h : d.isReal = true) :
    d.year < 10 ^ 4 ∧ d.month < 10 ^ 2 ∧ d.day < 10 ^ 2 := by
  have hdays := daysInMonth_le d.year d.month
  have hmax : maxYear = 9999 := rfl
  simp only [isReal, Bool.and_eq_true, decide_eq_true_eq] at h
  omega

/-- A real date is written with runs of digits of fixed lengths. -/
theorem isoText_digits {d : Date} (h : d.isReal = true) :
    ∃ ys ms ds, d.isoText.toList = ys ++ '-' :: (ms ++ '-' :: ds) ∧
      (AllDigits ys ∧ AllDigits ms ∧ AllDigits ds) ∧
      (ys.length = 4 ∧ ms.length = 2 ∧ ds.length = 2) ∧
      d = ⟨ofDigitChars 10 ys 0, ofDigitChars 10 ms 0, ofDigitChars 10 ds 0⟩ := by
  obtain ⟨hyear, hmonth, hday⟩ := bounds_of_isReal h
  obtain ⟨hylen, hy, hyval⟩ := padded_spec (by omega) hyear
  obtain ⟨hmlen, hm, hmval⟩ := padded_spec (by omega) hmonth
  obtain ⟨hdlen, hd, hdval⟩ := padded_spec (by omega) hday
  refine ⟨_, _, _, ?_, ⟨hy, hm, hd⟩, ⟨hylen, hmlen, hdlen⟩, ?_⟩
  · simp [isoText, String.toList_append]
  · rw [hyval, hmval, hdval]

theorem eq_isoText_of_digits {s : String} {ys ms ds : List Char}
    (hs : s.toList = ys ++ '-' :: (ms ++ '-' :: ds)) (hy : AllDigits ys) (hm : AllDigits ms)
    (hd : AllDigits ds) (hylen : ys.length = 4) (hmlen : ms.length = 2) (hdlen : ds.length = 2) :
    s = isoText ⟨ofDigitChars 10 ys 0, ofDigitChars 10 ms 0, ofDigitChars 10 ds 0⟩ := by
  apply String.toList_injective
  have hyears := padded_ofDigitChars hy (by omega)
  have hmonths := padded_ofDigitChars hm (by omega)
  have hdays := padded_ofDigitChars hd (by omega)
  rw [hylen] at hyears
  rw [hmlen] at hmonths
  rw [hdlen] at hdays
  rw [hs, isoText, hyears, hmonths, hdays]
  simp [String.toList_append]

/-- Writing a real date and reading it again gives the date. -/
theorem readDate?_isoText {d : Date} (h : d.isReal = true) :
    Calendar.readDate? d.isoText = some d := by
  obtain ⟨ys, ms, ds, hs, ⟨hy, hm, hd⟩, ⟨hylen, hmlen, hdlen⟩, hval⟩ := isoText_digits h
  rw [Calendar.readDate?_of_digits hs hy hm hd hylen hmlen hdlen, real?_eq_some_iff]
  exact ⟨hval, h⟩

end Date

end ServiceBlueprint
