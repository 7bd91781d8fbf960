import Mathlib
import ServiceBlueprint.Text.Case

/-!
# Words in any letter case

A text has a word of plain letters for its small form exactly if it has the letters of the word,
each of them small or capital. The letter `k` is not plain: the sign of the unit kelvin has it for
its small form. Of the other letters of ASCII no character beyond ASCII is a capital.
-/

namespace ServiceBlueprint.Text

/-- The letters of a word, each of them small or capital. -/
def IsCaseOf (s word : String) : Prop :=
  s.toList.map Char.toLower = word.toList

/-- A small letter of ASCII that has no capital but that of ASCII. -/
def IsPlainLetter (c : Char) : Prop :=
  c.isLower = true ∧ c ≠ 'k'

theorem IsPlainLetter.bounds {c : Char} (h : IsPlainLetter c) :
    97 ≤ c.toNat ∧ c.toNat < 128 ∧ c.toNat ≠ 107 := by
  have hlower := h.1
  simp only [Char.isLower, Bool.and_eq_true, decide_eq_true_eq, UInt32.le_iff_toNat_le] at hlower
  have ha : ('a'.val).toNat = 97 := rfl
  have hz : ('z'.val).toNat = 122 := rfl
  have hval : c.toNat = c.val.toNat := rfl
  refine ⟨by omega, by omega, fun hk => h.2 (Char.toNat_inj.mp hk)⟩

/-! ### Beyond ASCII -/

theorem applyRows_lowerRows {n : Nat} (hn : 128 ≤ n) :
    applyRows lowerRows n = 107 ∨ 128 ≤ applyRows lowerRows n := by
  have hrows : ∀ row ∈ lowerRows.toList, 128 ≤ (row.first : Int) + row.shift ∨
      row.first = row.last ∧ (row.first : Int) + row.shift = 107 := by decide +kernel
  unfold applyRows
  split
  next row hfind =>
    have hcovers := Array.find?_some hfind
    simp only [CaseRow.covers, Bool.and_eq_true, decide_eq_true_eq] at hcovers
    have hrow := hrows row (Array.mem_toList_iff.mpr (Array.mem_of_find?_eq_some hfind))
    omega
  · exact Or.inr hn

theorem not_isPlainLetter_lowerChar {c : Char} (hc : 128 ≤ c.toNat) (hdot : c.toNat ≠ 0x130) :
    ¬ IsPlainLetter (lowerChar c) := by
  intro h
  have hbounds := h.bounds
  have hrows := applyRows_lowerRows hc
  unfold lowerChar at hbounds
  rw [if_neg (by omega), if_neg hdot, Char.toNat_ofNat] at hbounds
  -- what is no code point is taken for zero
  split at hbounds <;> omega

/-- The small form of a character beyond ASCII is not made of plain letters. -/
theorem exists_mem_lowerFrom {c : Char} (hc : 128 ≤ c.toNat) (before cs : List Char) :
    ∃ d ∈ lowerFrom before (c :: cs), ¬ IsPlainLetter d := by
  have hno {n : Nat} (hn : 128 ≤ (Char.ofNat n).toNat) : ¬ IsPlainLetter (Char.ofNat n) := by
    intro h
    have hbounds := h.bounds
    omega
  unfold lowerFrom
  split
  · exact ⟨Char.ofNat 0x307, by simp, hno (by decide)⟩
  · split
    · refine ⟨_, List.mem_cons_self, ?_⟩
      split <;> exact hno (by decide)
    · exact ⟨_, List.mem_cons_self, not_isPlainLetter_lowerChar hc ‹_›⟩

theorem toLower_of_le {c : Char} (hc : 128 ≤ c.toNat) : c.toLower = c := by
  apply Char.toLower_eq_of_not_isUpper
  simp only [Char.isUpper, decide_eq_true_eq, UInt32.le_iff_toNat_le]
  have hZ : ('Z'.val).toNat = 90 := rfl
  have hval : c.toNat = c.val.toNat := rfl
  omega

/-! ### Words of plain letters -/

theorem lowerFrom_eq_iff {ds : List Char} (hds : ∀ d ∈ ds, IsPlainLetter d)
    (before cs : List Char) : lowerFrom before cs = ds ↔ cs.map Char.toLower = ds := by
  induction cs generalizing before ds with
  | nil => rfl
  | cons c cs ih =>
    by_cases hc : c.toNat < 128
    · have hstep : lowerFrom before (c :: cs) = c.toLower :: lowerFrom (c :: before) cs := by
        rw [lowerFrom, if_neg (by omega), if_neg (by omega), lowerChar, if_pos hc]
        rfl
      rw [hstep, List.map_cons]
      cases ds with
      | nil => simp
      | cons d ds => rw [List.cons.injEq, List.cons.injEq, ih (List.forall_mem_cons.mp hds).2]
    · rw [Nat.not_lt] at hc
      constructor
      · rintro rfl
        obtain ⟨d, hd, hno⟩ := exists_mem_lowerFrom hc before cs
        exact absurd (hds d hd) hno
      · rintro rfl
        have hbounds := (hds c.toLower List.mem_cons_self).bounds
        rw [toLower_of_le hc] at hbounds
        omega

/-- The small form of a text is a word of plain letters exactly if the text is the word in some
letter case. -/
theorem lower_eq_iff {word : String} (hword : ∀ c ∈ word.toList, IsPlainLetter c) (s : String) :
    lower s = word ↔ IsCaseOf s word := by
  rw [IsCaseOf, ← lowerFrom_eq_iff hword [] s.toList, lower]
  constructor
  · rintro rfl
    exact String.toList_ofList.symm
  · intro h
    rw [h, String.ofList_toList]

/-- The capitals of the word need not be those of ASCII if it has a `k`. -/
example : lower (String.singleton '\u212a') = "k" := by decide +kernel

end ServiceBlueprint.Text
