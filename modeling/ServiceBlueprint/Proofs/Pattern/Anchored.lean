import Mathlib.Tactic.ByContra
import ServiceBlueprint.Pattern.Matching

/-!
# Patterns that begin at the start of a text

Such a pattern is found in a text exactly if it matches at its start. Whatever a sequence has among
its parts is met on the way to each of its ends, so that a text in which a pattern is found has
every character that the pattern asks for by itself.
-/

namespace ServiceBlueprint.Pattern

variable {s : Subject} {tracking : Bool}

@[simp] theorem distinct_nil : distinct [] = [] := rfl

@[simp] theorem sequenceEnds_nil (nodes : List Node) : sequenceEnds s tracking nodes [] = [] := by
  induction nodes with
  | nil => rfl
  | cons n ns ih => rw [sequenceEnds, List.flatMap_nil, distinct_nil, ih]

/-- A sequence ends somewhere only if each of its parts does, from some place. -/
theorem exists_ends_of_sequenceEnds {nodes : List Node} {ps : List Place}
    (h : sequenceEnds s tracking nodes ps ≠ []) {n : Node} (hn : n ∈ nodes) :
    ∃ p, n.ends s tracking p ≠ [] := by
  induction nodes generalizing ps with
  | nil => cases hn
  | cons m ms ih =>
    rw [sequenceEnds] at h
    rcases List.mem_cons.mp hn with rfl | hn
    · by_contra! hnone
      rw [List.flatMap_eq_nil_iff.mpr fun p _ => hnone p, distinct_nil, sequenceEnds_nil] at h
      exact h rfl
    · exact ih h hn

/-- A set of one character is met only where the character stands. -/
theorem mem_of_ends_single {c : Char} {p : Place}
    (h : (Node.set false [.single c.toNat] .exact).ends s tracking p ≠ []) : c ∈ s := by
  rw [Node.ends] at h
  split at h
  next d hd =>
    split at h
    next hin =>
      have hcode : d.toNat = c.toNat := by
        simpa [inSet, SetItem.holds, foldings, eq_comm] using hin
      rw [← Char.toNat_inj.mp hcode]
      exact Array.mem_of_getElem? hd
    next => exact absurd rfl h
  next => exact absurd rfl h

/-- The first part of the pattern is the start of the text. -/
def Anchored (p : Pattern) : Prop :=
  ∃ nodes, p.root = .sequence (.anchor .textStart :: nodes)

variable {p : Pattern}

theorem Anchored.matchesAt_eq_false (h : p.Anchored) {start : Nat} (hstart : start ≠ 0) :
    p.matchesAt s start = false := by
  obtain ⟨nodes, hroot⟩ := h
  rw [matchesAt, hroot, Node.ends, sequenceEnds, List.flatMap_singleton, Node.ends,
    Anchor.holds, decide_eq_false hstart]
  simp

theorem Anchored.foundIn_eq (h : p.Anchored) (text : String) :
    p.foundIn text = p.matchesStart text := by
  rw [Bool.eq_iff_iff, foundIn, matchesStart, List.any_eq_true]
  constructor
  · rintro ⟨start, -, hmatch⟩
    by_cases hstart : start = 0
    · rwa [hstart] at hmatch
    · rw [h.matchesAt_eq_false hstart] at hmatch
      cases hmatch
  · intro hmatch
    exact ⟨0, List.mem_range.mpr (Nat.succ_pos _), hmatch⟩

/-- A text in which a sequence is found has each character that is a part of the sequence. -/
theorem mem_of_foundIn {nodes : List Node} (hroot : p.root = .sequence nodes) {c : Char}
    (hc : .set false [.single c.toNat] .exact ∈ nodes) {text : String}
    (h : p.foundIn text = true) : c ∈ text.toList := by
  obtain ⟨start, -, hmatch⟩ := List.any_eq_true.mp h
  rw [matchesAt, hroot, Node.ends, Bool.not_eq_true', List.isEmpty_eq_false_iff] at hmatch
  obtain ⟨place, hplace⟩ := exists_ends_of_sequenceEnds hmatch hc
  exact List.mem_toArray.mp (mem_of_ends_single hplace)

end ServiceBlueprint.Pattern
