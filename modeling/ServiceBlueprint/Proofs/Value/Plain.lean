import ServiceBlueprint.Proofs.Attempt
import ServiceBlueprint.Proofs.Value.Access
import ServiceBlueprint.Proofs.Value.Text

/-!
# Plain values

A plain value is made of null, truth values, numbers, texts, lists and maps, as a document is that
uses no other kinds. What is read from plain values is plain, and of plain values the lists and maps
are those that may not be keys.
-/

namespace ServiceBlueprint.Value

mutual

/-- Whether a value is made of null, truth values, numbers, texts, lists and maps only. -/
def isPlain : Value → Bool
  | .bytes _ => false
  | .date _ => false
  | .timestamp _ => false
  | .tuple _ => false
  | .set _ => false
  | .list xs => arePlain xs
  | .map es => arePlainEntries es
  | _ => true

def arePlain : List Value → Bool
  | [] => true
  | x :: xs => isPlain x && arePlain xs

def arePlainEntries : List (Value × Value) → Bool
  | [] => true
  | e :: es => isPlain e.1 && isPlain e.2 && arePlainEntries es

end

theorem isPlain_list_iff {xs : List Value} :
    (Value.list xs).isPlain = true ↔ ∀ x ∈ xs, x.isPlain = true := by
  rw [isPlain]
  induction xs with
  | nil => simp [arePlain]
  | cons x xs ih => rw [arePlain, Bool.and_eq_true, ih, List.forall_mem_cons]

theorem isPlain_map_iff {es : List (Value × Value)} :
    (Value.map es).isPlain = true ↔ ∀ e ∈ es, e.1.isPlain = true ∧ e.2.isPlain = true := by
  rw [isPlain]
  induction es with
  | nil => simp [arePlainEntries]
  | cons e es ih =>
    rw [arePlainEntries, Bool.and_eq_true, Bool.and_eq_true, ih, List.forall_mem_cons]

theorem isPlain_of_find? {es : List (Value × Value)} (h : (Value.map es).isPlain = true)
    {key w : Value} (hw : Table.find? es key = some w) : w.isPlain = true := by
  obtain ⟨e, he, -, rfl⟩ := Table.mem_of_find? hw
  exact (isPlain_map_iff.mp h e he).2

theorem isKey_iff_of_isPlain {v : Value} (h : v.isPlain = true) :
    v.isKey = true ↔ v.isList = false ∧ v.isMap = false := by
  cases v <;> simp_all [isPlain, isKey, isList, isMap]

/-! ### Reading plain values -/

theorem isPlain_of_mem_elements {v x : Value} {xs : List Value} (h : v.isPlain = true)
    (hxs : v.elements = .ok xs) (hx : x ∈ xs) : x.isPlain = true := by
  cases v with
  | list items =>
    cases hxs
    exact isPlain_list_iff.mp h x hx
  | map es =>
    cases hxs
    obtain ⟨e, he, rfl⟩ := List.mem_map.mp hx
    exact (isPlain_map_iff.mp h e he).1
  | text s =>
    cases hxs
    obtain ⟨c, -, rfl⟩ := List.mem_map.mp hx
    rfl
  | tuple items => cases h
  | set items => cases h
  | bytes octets => cases h
  | _ => cases hxs

theorem isPlain_of_lookup {v w : Value} {key : String} (h : v.isPlain = true)
    (hw : v.lookup key = .ok (some w)) : w.isPlain = true := by
  cases v with
  | map es => exact isPlain_of_find? h (Except.ok.inj hw)
  | _ => cases hw

theorem isPlain_of_index {v w : Value} {key : String} (h : v.isPlain = true)
    (hw : v.index key = .ok w) : w.isPlain = true := by
  have hget := index_eq_ok_iff.mp hw
  cases v with
  | map es => exact isPlain_of_find? h hget
  | _ => cases hget

theorem isPlain_of_pick {v w : Value} {keys : List String} (h : v.isPlain = true)
    (hw : v.pick keys = .ok (some w)) : w.isPlain = true := by
  induction keys with
  | nil => cases hw
  | cons key keys ih =>
    obtain ⟨there, -, hw⟩ := Attempt.bind_eq_ok.mp hw
    cases there with
    | true =>
      obtain ⟨w', hw', hw⟩ := Attempt.bind_eq_ok.mp hw
      cases hw
      exact isPlain_of_index h hw'
    | false => exact ih hw

end ServiceBlueprint.Value
