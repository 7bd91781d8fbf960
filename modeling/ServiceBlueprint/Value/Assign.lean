import ServiceBlueprint.Value.Access

/-!
# Assigning inside a value

A path leads through maps by key and through lists by position, which may be counted from the end.
Its last step may add a key to a map, but every other step has to be there.
-/

namespace ServiceBlueprint.Value

/-- The position that an index means in a list of the given length. -/
def position (key : Value) (length : Nat) : Attempt Nat :=
  match key.quantity? with
  | some (.whole n) =>
    let i := if n < 0 then n + length else n
    if 0 ≤ i ∧ i < length then .ok i.toNat else .error .missingIndex
  | _ => .error .wrongType

/-- The value with what is at the end of the path, or would be, replaced. -/
def assign (new : Value) : List Value → Value → Attempt Value
  | [], _ => .ok new
  | [key], .map es => do
    return .map (Table.insert es (← key.asKey) new)
  | key :: path, .map es => do
    match Table.find? es (← key.asKey) with
    | some v => return .map (Table.insert es key (← assign new path v))
    | none => throw .missingKey
  | key :: path, .list xs => do
    let i ← position key xs.length
    return .list (xs.set i (← assign new path (xs[i]?.getD .null)))
  | _, _ => .error .wrongType

end ServiceBlueprint.Value
