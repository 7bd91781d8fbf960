import ServiceBlueprint.Value.Access

/-!
# Keys among values

Whether a value may be a key does not depend on how it is written: the normal form of a value is a
collection that can change exactly if the value is. So of two values that are the same both may be
keys or neither.
-/

namespace ServiceBlueprint.Value

variable {truth : Bool → Value}

mutual

theorem isKey_normalBy (htruth : ∀ b, (truth b).isKey = true) (v : Value) :
    (v.normalBy truth).isKey = v.isKey := by
  cases v with
  | bool b => exact htruth b
  | float x =>
    rw [normalBy]
    split <;> rfl
  | tuple xs => exact areKeys_normalItems htruth xs
  | _ => rfl

theorem areKeys_normalItems (htruth : ∀ b, (truth b).isKey = true) (xs : List Value) :
    areKeys (normalItems truth xs) = areKeys xs := by
  cases xs with
  | nil => rfl
  | cons x xs =>
    rw [normalItems, areKeys, areKeys, isKey_normalBy htruth x, areKeys_normalItems htruth xs]

end

theorem isKey_normal (v : Value) : v.normal.isKey = v.isKey :=
  isKey_normalBy (fun _ => rfl) v

theorem isKey_congr {a b : Value} (h : (a == b) = true) : a.isKey = b.isKey := by
  rw [← isKey_normal a, ← isKey_normal b, beq_iff_normal.mp h]

end ServiceBlueprint.Value
