import ServiceBlueprint.Proofs.Table
import ServiceBlueprint.Value.Access
import ServiceBlueprint.Value.Literal

/-!
# Texts among values

A text is the same as no other value, may be a key and stands for itself. Lists of texts have no
repeats after `addUnlessThere`, and are put in ascending order by `sorted`.
-/

namespace ServiceBlueprint.Value

theorem exists_eq_text {v : Value} (h : v.isText = true) : ∃ s, v = .text s := by
  cases v with
  | text s => exact ⟨s, rfl⟩
  | _ => cases h

theorem isText_of_text? {v : Value} {s : String} (h : v.text? = some s) : v.isText = true := by
  cases v with
  | text s => rfl
  | _ => cases h

theorem isolated_of_isText {v : Value} (h : v.isText = true) : Isolated v := by
  obtain ⟨s, rfl⟩ := exists_eq_text h
  exact fun k' hk => text_beq.mp hk

theorem isKey_of_isText {v : Value} (h : v.isText = true) : v.isKey = true := by
  obtain ⟨s, rfl⟩ := exists_eq_text h
  rfl

theorem asKey_eq_ok_iff {v w : Value} : v.asKey = .ok w ↔ v.isKey = true ∧ w = v := by
  unfold asKey
  by_cases hv : v.isKey
  · rw [if_pos hv, Except.ok.injEq, eq_comm]
    exact (and_iff_right hv).symm
  · rw [if_neg hv]
    constructor
    · intro h
      cases h
    · exact fun h => absurd h.1 hv

theorem asKey_of_isText {v : Value} (h : v.isText = true) : v.asKey = .ok v := by
  rw [asKey, if_pos (isKey_of_isText h)]

theorem text_display {v : Value} (h : v.isText = true) : Value.text v.display = v := by
  obtain ⟨s, rfl⟩ := exists_eq_text h
  rfl

theorem beq_iff_eq_of_isText {v w : Value} (h : v.isText = true) : (v == w) = true ↔ v = w := by
  constructor
  · exact fun hvw => (isolated_of_isText h w hvw).symm
  · rintro rfl
    exact BEq.rfl

theorem beq_iff_eq_of_isText_right {v w : Value} (h : w.isText = true) :
    (v == w) = true ↔ v = w := by
  rw [BEq.comm, beq_iff_eq_of_isText h, eq_comm]

theorem strictlySame_text_iff {v : Value} {s : String} :
    v.strictlySame (.text s) = true ↔ v = .text s := by
  unfold strictlySame
  rw [decide_eq_true_iff]
  cases v with
  | float x => cases h : x.toInt? <;> simp [normalBy, h]
  | _ => simp [normalBy]

theorem contains_iff_mem {vs : List Value} {v : Value} (h : v.isText = true) :
    vs.contains v = true ↔ v ∈ vs :=
  (isolated_of_isText h).contains_iff

theorem contains_iff_mem_of_forall {vs : List Value} (h : ∀ v ∈ vs, v.isText = true) {v : Value} :
    vs.contains v = true ↔ v ∈ vs := by
  rw [List.contains_iff_exists_mem_beq]
  constructor
  · rintro ⟨w, hw, hvw⟩
    rwa [(beq_iff_eq_of_isText_right (h w hw)).mp hvw]
  · exact fun hv => ⟨v, hv, BEq.rfl⟩

theorem exists_eq_map_text {vs : List Value} (h : ∀ v ∈ vs, v.isText = true) :
    ∃ ss : List String, vs = ss.map .text := by
  refine ⟨vs.map display, ?_⟩
  rw [List.map_map]
  exact (List.map_congr_left fun v hv => text_display (h v hv)).symm ▸ (List.map_id vs).symm

theorem allText?_map_text (ss : List String) : allText? (ss.map .text) = some ss := by
  induction ss with
  | nil => rfl
  | cons s ss ih =>
    unfold allText? at ih ⊢
    rw [List.map_cons, List.mapM_cons, ih]
    rfl

theorem allText?_isSome_iff {vs : List Value} :
    (allText? vs).isSome = true ↔ ∀ v ∈ vs, v.isText = true := by
  constructor
  · intro h
    induction vs with
    | nil => exact fun v hv => absurd hv List.not_mem_nil
    | cons v vs ih =>
      unfold allText? at ih h
      rw [List.mapM_cons] at h
      obtain ⟨ss, h⟩ := Option.isSome_iff_exists.mp h
      obtain ⟨s, hs, h⟩ := Option.bind_eq_some_iff.mp h
      obtain ⟨rest, hrest, -⟩ := Option.bind_eq_some_iff.mp h
      rw [hrest] at ih
      rw [List.forall_mem_cons]
      exact ⟨isText_of_text? hs, ih rfl⟩
  · intro h
    obtain ⟨ss, rfl⟩ := exists_eq_map_text h
    rw [allText?_map_text]
    rfl

theorem sorted_map_text (ss : List String) :
    sorted (ss.map .text) = .ok ((ss.mergeSort fun a b => decide (a ≤ b)).map .text) := by
  unfold sorted
  by_cases hlen : (ss.map Value.text).length ≤ 1
  · rw [if_pos hlen]
    match ss with
    | [] => rw [List.mergeSort_nil]
    | [s] => rw [List.mergeSort_singleton]
    | _ :: _ :: _ => simp at hlen
  · rw [if_neg hlen, allText?_map_text]

theorem pairwise_lt_mergeSort {ss : List String} (h : ss.Nodup) :
    (ss.mergeSort fun a b => decide (a ≤ b)).Pairwise (· < ·) := by
  have hle : (ss.mergeSort fun a b => decide (a ≤ b)).Pairwise
      fun a b => decide (a ≤ b) = true := by
    apply List.pairwise_mergeSort
    · intro a b c hab hbc
      simp only [decide_eq_true_eq] at hab hbc ⊢
      exact String.le_trans hab hbc
    · intro a b
      simpa using String.le_total a b
  have hne : (ss.mergeSort fun a b => decide (a ≤ b)).Nodup :=
    (List.mergeSort_perm ss _).nodup_iff.mpr h
  refine (hle.and hne).imp ?_
  rintro a b ⟨hab, hne⟩
  rw [← String.not_le]
  exact fun hba => hne (String.le_antisymm (of_decide_eq_true hab) hba)

theorem occursIn_iff {needle cs : List Char} : occursIn needle cs = true ↔ needle <:+: cs := by
  induction cs with
  | nil => rw [occursIn, List.isEmpty_iff, List.infix_nil]
  | cons c cs ih =>
    rw [occursIn, Bool.or_eq_true, List.isPrefixOf_iff_prefix, ih, List.infix_cons_iff]

end ServiceBlueprint.Value
