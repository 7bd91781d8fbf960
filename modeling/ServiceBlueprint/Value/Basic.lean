import ServiceBlueprint.Calendar.Timestamp
import ServiceBlueprint.Number.Binary64

/-!
# Dynamic values

The values that configurations, submissions and rule documents are made of. Maps keep their entries
in the order of insertion and may have keys of any scalar kind. Texts hold no surrogates: the
escapes of a pair are read as one character and half of one as the replacement character. The
equality derived here is that of the written value; the coarser equality under which `1`, `1.0` and
`true` agree is `Value.same`.
-/

namespace ServiceBlueprint

inductive Value where
  | null
  | bool (b : Bool)
  | int (n : Int)
  | float (x : Binary64)
  | text (s : String)
  | bytes (octets : List Nat)
  | date (d : Date)
  | timestamp (t : Timestamp)
  | list (items : List Value)
  | tuple (items : List Value)
  | set (items : List Value)
  | map (entries : List (Value × Value))
  deriving Inhabited

namespace Value

mutual

def identical : Value → Value → Bool
  | .null, .null => true
  | .bool a, .bool b => a == b
  | .int a, .int b => a == b
  | .float a, .float b => a == b
  | .text a, .text b => a == b
  | .bytes a, .bytes b => a == b
  | .date a, .date b => a == b
  | .timestamp a, .timestamp b => a == b
  | .list xs, .list ys => identicalItems xs ys
  | .tuple xs, .tuple ys => identicalItems xs ys
  | .set xs, .set ys => identicalItems xs ys
  | .map xs, .map ys => identicalEntries xs ys
  | _, _ => false

def identicalItems : List Value → List Value → Bool
  | [], [] => true
  | x :: xs, y :: ys => identical x y && identicalItems xs ys
  | _, _ => false

def identicalEntries : List (Value × Value) → List (Value × Value) → Bool
  | [], [] => true
  | (k, v) :: xs, (l, w) :: ys => identical k l && identical v w && identicalEntries xs ys
  | _, _ => false

end

mutual

theorem identical_iff (a b : Value) : identical a b = true ↔ a = b := by
  cases a <;> cases b <;>
    simp [identical, identicalItems_iff, identicalEntries_iff]

theorem identicalItems_iff (xs ys : List Value) : identicalItems xs ys = true ↔ xs = ys := by
  cases xs <;> cases ys <;>
    simp [identicalItems, identical_iff, identicalItems_iff]

theorem identicalEntries_iff (xs ys : List (Value × Value)) :
    identicalEntries xs ys = true ↔ xs = ys := by
  match xs, ys with
  | [], [] => simp [identicalEntries]
  | [], _ :: _ => simp [identicalEntries]
  | _ :: _, [] => simp [identicalEntries]
  | (k, v) :: xs, (l, w) :: ys =>
    simp [identicalEntries, identical_iff k l, identical_iff v w, identicalEntries_iff xs ys]

end

instance : DecidableEq Value := fun a b => decidable_of_iff _ (identical_iff a b)

end Value

end ServiceBlueprint
