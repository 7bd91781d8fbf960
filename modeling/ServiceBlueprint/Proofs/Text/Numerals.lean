import ServiceBlueprint.Gap.Report

/-!
# The numbers in a text

`numbersIn` reads the numbers off a text, each run of digits being one. Texts joined where no run of
digits goes on have the numbers of the one and then those of the other.
-/

namespace ServiceBlueprint

open Nat (ofDigitChars)

/-- The numbers of what is left of a text, where a run of digits may be open. -/
def numbersFrom : (run : Option Nat) → List Char → List Nat
  | run, [] => run.toList
  | run, c :: cs =>
    if c.isDigit then numbersFrom (some (10 * run.getD 0 + (c.toNat - 48))) cs
    else run.toList ++ numbersFrom none cs

/-- The values of the runs of digits in a text, from left to right. -/
def numbersIn (s : String) : List Nat :=
  numbersFrom none s.toList

/-- A text that cannot go on with a run of digits. -/
def NoDigitFirst (cs : List Char) : Prop :=
  ∀ c, cs.head? = some c → c.isDigit = false

theorem numbersFrom_append (run : Option Nat) (cs : List Char) {rest : List Char}
    (hrest : NoDigitFirst rest) :
    numbersFrom run (cs ++ rest) = numbersFrom run cs ++ numbersFrom none rest := by
  induction cs generalizing run with
  | nil =>
    cases rest with
    | nil => exact (List.append_nil _).symm
    | cons c rest =>
      have hc : ¬ c.isDigit = true := by simp [hrest c rfl]
      rw [List.nil_append, numbersFrom, numbersFrom, numbersFrom, if_neg hc, if_neg hc]
      rfl
  | cons c cs ih =>
    rw [List.cons_append, numbersFrom, numbersFrom]
    split
    · exact ih _
    · rw [ih, List.append_assoc]

/-- What holds no digits has no numbers, and leaves those of what comes next. -/
theorem numbersFrom_append_of_forall {cs : List Char} (h : ∀ c ∈ cs, c.isDigit = false)
    (rest : List Char) : numbersFrom none (cs ++ rest) = numbersFrom none rest := by
  induction cs with
  | nil => rfl
  | cons c cs ih =>
    obtain ⟨hc, hcs⟩ := List.forall_mem_cons.mp h
    rw [List.cons_append, numbersFrom, if_neg (by simp [hc]), ih hcs]
    rfl

theorem numbersFrom_of_digits {ds : List Char} (hd : ∀ c ∈ ds, c.isDigit = true) (n : Nat) :
    numbersFrom (some n) ds = [ofDigitChars 10 ds n] := by
  induction ds generalizing n with
  | nil => rfl
  | cons d ds ih =>
    obtain ⟨hfirst, hrest⟩ := List.forall_mem_cons.mp hd
    rw [numbersFrom, if_pos hfirst, ih hrest, Nat.ofDigitChars_cons]
    rfl

/-- A text that holds nothing but digits has the number that they stand for. -/
theorem numbersIn_of_digits {s : String} (hne : s ≠ "") (hd : ∀ c ∈ s.toList, c.isDigit = true) :
    numbersIn s = [ofDigitChars 10 s.toList 0] := by
  unfold numbersIn
  cases hs : s.toList with
  | nil => exact absurd (String.toList_eq_nil_iff.mp hs) hne
  | cons d ds =>
    rw [hs] at hd
    -- The first digit opens a run just as it goes on with one that stands at zero.
    rw [← numbersFrom_of_digits hd, numbersFrom, numbersFrom, if_pos (hd d List.mem_cons_self),
      if_pos (hd d List.mem_cons_self)]
    rfl

theorem numbersIn_toString (n : Nat) : numbersIn (toString n) = [n] := by
  have hlist : (toString n).toList = Nat.toDigits 10 n := Nat.toList_repr
  have hne : toString n ≠ "" := by
    rw [ne_eq, ← String.toList_eq_nil_iff, hlist]
    exact Nat.toDigits_ne_nil
  have hd : ∀ c ∈ (toString n).toList, c.isDigit = true := by
    rw [hlist]
    exact fun c hc => Nat.isDigit_of_mem_toDigits (by omega) (by omega) hc
  rw [numbersIn_of_digits hne hd, hlist, Nat.ofDigitChars_ten_toDigits]

theorem numbersIn_append {s t : String} (ht : NoDigitFirst t.toList) :
    numbersIn (s ++ t) = numbersIn s ++ numbersIn t := by
  rw [numbersIn, String.toList_append, numbersFrom_append none s.toList ht]
  rfl

theorem numbersIn_append_of_forall {s : String} (hs : ∀ c ∈ s.toList, c.isDigit = false)
    (t : String) : numbersIn (s ++ t) = numbersIn t := by
  rw [numbersIn, String.toList_append, numbersFrom_append_of_forall hs]
  rfl

theorem numbersIn_eq_nil {s : String} (hs : ∀ c ∈ s.toList, c.isDigit = false) :
    numbersIn s = [] := by
  have h := numbersIn_append_of_forall hs ""
  rwa [String.append_empty] at h

theorem numbersIn_append_right (s : String) {t : String}
    (ht : ∀ c ∈ t.toList, c.isDigit = false) : numbersIn (s ++ t) = numbersIn s := by
  have hfirst : NoDigitFirst t.toList := fun c hc => ht c (List.mem_of_mem_head? hc)
  rw [numbersIn_append hfirst, numbersIn_eq_nil ht, List.append_nil]

/-- What stands between two texts keeps their numbers apart. -/
theorem numbersIn_append_separated (s : String) {sep : String} (hne : sep ≠ "")
    (hsep : ∀ c ∈ sep.toList, c.isDigit = false) (rest : String) :
    numbersIn (s ++ (sep ++ rest)) = numbersIn s ++ numbersIn rest := by
  have hfirst : NoDigitFirst (sep ++ rest).toList := by
    rw [String.toList_append]
    cases hs : sep.toList with
    | nil => exact absurd (String.toList_eq_nil_iff.mp hs) hne
    | cons c cs =>
      rw [hs] at hsep
      rintro _ ⟨⟩
      exact hsep c List.mem_cons_self
  rw [numbersIn_append hfirst, numbersIn_append_of_forall hsep]

/-- A list with commas has the numbers of its items. -/
theorem numbersIn_intercalate (items : List String) :
    numbersIn (", ".intercalate items) = items.flatMap numbersIn := by
  induction items with
  | nil => rfl
  | cons s rest ih =>
    cases rest with
    | nil => rw [String.intercalate_singleton, List.flatMap_singleton]
    | cons t rest =>
      rw [String.intercalate_cons_cons, String.append_assoc,
        numbersIn_append_separated _ (by decide) (by simp), ih]
      rfl

/-- A count with its noun has the count as its only number. -/
theorem numbersIn_counted (n : Nat) {one many : String}
    (hone : ∀ c ∈ one.toList, c.isDigit = false) (hmany : ∀ c ∈ many.toList, c.isDigit = false) :
    numbersIn (Gap.counted n one many) = [n] := by
  have hnoun : ∀ c ∈ (if n = 1 then one else many).toList, c.isDigit = false := by
    split
    · exact hone
    · exact hmany
  rw [Gap.counted, numbersIn_append_right _ hnoun, numbersIn_append_right _ (by simp),
    numbersIn_toString]

end ServiceBlueprint
