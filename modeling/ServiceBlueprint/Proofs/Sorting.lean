import Mathlib
import ServiceBlueprint.Form.Model
import ServiceBlueprint.Workflow.Model

/-!
# Stable sorting by a whole number

A list is sorted by a number when it has the elements of another list, in ascending order, and those
of equal number in the order in which they came. There is one such list, which is what merge sort
gives. The transitions of a status and the active fields and sections of a form are so sorted by the
order written on them.
-/

namespace ServiceBlueprint

variable {α : Type}

structure SortedBy (key : α → Int) (xs ys : List α) : Prop where
  perm : ys.Perm xs
  ascending : ys.Pairwise fun a b => key a ≤ key b
  stable : ∀ k, ys.filter (key · = k) = xs.filter (key · = k)

section

variable (key : α → Int)

theorem keyLe_trans (a b c : α) (hab : decide (key a ≤ key b) = true)
    (hbc : decide (key b ≤ key c) = true) : decide (key a ≤ key c) = true := by
  rw [decide_eq_true_iff] at hab hbc ⊢
  omega

theorem keyLe_total (a b : α) : (decide (key a ≤ key b) || decide (key b ≤ key a)) = true := by
  rw [Bool.or_eq_true, decide_eq_true_iff, decide_eq_true_iff]
  omega

theorem filter_mergeSort_eq (xs : List α) (k : Int) :
    (xs.mergeSort fun a b => key a ≤ key b).filter (key · = k) = xs.filter (key · = k) := by
  have hclass : (xs.filter (key · = k)).Pairwise fun a b => decide (key a ≤ key b) = true := by
    apply List.pairwise_of_forall_mem_list
    intro a ha b hb
    have hka := of_decide_eq_true (List.mem_filter.mp ha).2
    have hkb := of_decide_eq_true (List.mem_filter.mp hb).2
    rw [decide_eq_true_iff]
    omega
  -- elements of one number keep their order, and sorting drops and adds none
  have hsub : (xs.filter (key · = k)).Sublist (xs.mergeSort fun a b => key a ≤ key b) :=
    List.sublist_mergeSort (keyLe_trans key) (keyLe_total key) hclass List.filter_sublist
  have hfilter := hsub.filter (key · = k)
  rw [List.filter_filter] at hfilter
  simp only [Bool.and_self] at hfilter
  have hlength := ((List.mergeSort_perm xs fun a b => key a ≤ key b).filter (key · = k)).length_eq
  exact (hfilter.eq_of_length hlength.symm).symm

theorem sortedBy_mergeSort (xs : List α) :
    SortedBy key xs (xs.mergeSort fun a b => key a ≤ key b) where
  perm := List.mergeSort_perm xs _
  ascending :=
    (List.pairwise_mergeSort (keyLe_trans key) (keyLe_total key) xs).imp of_decide_eq_true
  stable := filter_mergeSort_eq key xs

/-- An ascending list begins with an element of the least number. -/
theorem key_head_le {y : α} {ys : List α} (h : (y :: ys).Pairwise fun a b => key a ≤ key b) {x : α}
    (hx : x ∈ y :: ys) : key y ≤ key x := by
  rcases List.mem_cons.mp hx with rfl | hx
  · exact Int.le_refl _
  · exact (List.pairwise_cons.mp h).1 x hx

/-- An element is found among those of its own number. -/
theorem mem_iff_of_filter_eq {ys zs : List α}
    (h : ∀ k, ys.filter (key · = k) = zs.filter (key · = k)) (x : α) : x ∈ ys ↔ x ∈ zs := by
  have hx := congrArg (x ∈ ·) (h (key x))
  simpa using hx

/-- The elements of each number, in their order, make up one ascending list. -/
theorem eq_of_filter_eq {ys zs : List α} (hys : ys.Pairwise fun a b => key a ≤ key b)
    (hzs : zs.Pairwise fun a b => key a ≤ key b)
    (h : ∀ k, ys.filter (key · = k) = zs.filter (key · = k)) : ys = zs := by
  have hmem := mem_iff_of_filter_eq key h
  induction ys generalizing zs with
  | nil => exact (List.eq_nil_iff_forall_not_mem.mpr fun z hz => nomatch (hmem z).mpr hz).symm
  | cons y ys ih =>
    cases zs with
    | nil => exact nomatch (hmem y).mp List.mem_cons_self
    | cons z zs =>
      have hle : key y ≤ key z := key_head_le key hys ((hmem z).mpr List.mem_cons_self)
      have hge : key z ≤ key y := key_head_le key hzs ((hmem y).mp List.mem_cons_self)
      have hkey : key z = key y := Int.le_antisymm hge hle
      -- so both lists go on with the first element of this number
      have hhead := h (key y)
      rw [List.filter_cons_of_pos (by simp), List.filter_cons_of_pos (by simp [hkey])] at hhead
      obtain ⟨rfl, -⟩ := List.cons.inj hhead
      have htail : ∀ k, ys.filter (key · = k) = zs.filter (key · = k) := by
        intro k
        have hk := h k
        rw [List.filter_cons, List.filter_cons] at hk
        split at hk
        · exact (List.cons.inj hk).2
        · exact hk
      rw [ih hys.of_cons hzs.of_cons htail (mem_iff_of_filter_eq key htail)]

/-- Merge sort gives the only list that is sorted by the number. -/
theorem sortedBy_iff {xs ys : List α} :
    SortedBy key xs ys ↔ ys = xs.mergeSort fun a b => key a ≤ key b := by
  have hsorted := sortedBy_mergeSort key xs
  constructor
  · intro h
    apply eq_of_filter_eq key h.ascending hsorted.ascending
    exact fun k => (h.stable k).trans (hsorted.stable k).symm
  · rintro rfl
    exact hsorted

end

/-! ### Sort orders -/

/-- Transitions, active fields and active sections come in the one order that ascends by the order
written on them and leaves those of equal order as they were. -/
theorem sorted_by_sortOrder (status : Workflow.Status) (form : Form) :
    (∀ ts, SortedBy Workflow.Transition.sortOrder status.transitions ts ↔
      ts = status.transitionsInOrder) ∧
    (∀ fs, SortedBy Form.Field.sortOrder (form.fields.filter (·.isActive)) fs ↔
      fs = form.activeFields) ∧
    ∀ ss, SortedBy Form.Section.sortOrder (form.sections.filter (·.isActive)) ss ↔
      ss = form.activeSections :=
  ⟨fun _ => sortedBy_iff _, fun _ => sortedBy_iff _, fun _ => sortedBy_iff _⟩

example :
    let transition (id : String) (sortOrder : Int) : Workflow.Transition :=
      ⟨id, .text "clerk", .null, sortOrder⟩
    let status : Workflow.Status := ⟨"s", .passed,
      [transition "a" 2, transition "b" (-1), transition "c" 2, transition "d" (-1)]⟩
    status.transitionsInOrder.map (·.id) = ["b", "d", "a", "c"] := by
  cbv

end ServiceBlueprint
