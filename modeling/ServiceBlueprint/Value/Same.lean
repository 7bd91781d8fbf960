import ServiceBlueprint.Value.Basic

/-!
# Sameness of values

Two values are the same when their normal forms are: truth values and whole doubles become
integers, doubles drop spare bits, instants are written in universal time, and the entries of maps
and sets are put in one fixed order. Sameness is therefore an equivalence, and on texts it is
equality. That the indeterminate double differs from itself in arithmetic is left out.
-/

namespace ServiceBlueprint

def Binary64.order : Binary64 → Binary64 → Ordering
  | .indeterminate, .indeterminate => .eq
  | .indeterminate, _ => .lt
  | _, .indeterminate => .gt
  | .infinite a, .infinite b => compare a b
  | .infinite _, _ => .lt
  | _, .infinite _ => .gt
  | .finite s m e, .finite t n f => (compare s t).then ((compare e f).then (compare m n))

namespace Value

def orderLists (xs ys : List Nat) : Ordering :=
  match xs, ys with
  | [], [] => .eq
  | [], _ :: _ => .lt
  | _ :: _, [] => .gt
  | x :: xs, y :: ys => (compare x y).then (orderLists xs ys)

def kind : Value → Nat
  | .null => 0
  | .bool _ => 1
  | .int _ => 2
  | .float _ => 3
  | .text _ => 4
  | .bytes _ => 5
  | .date _ => 6
  | .timestamp _ => 7
  | .list _ => 8
  | .tuple _ => 9
  | .set _ => 10
  | .map _ => 11

mutual

/-- A total order on written values, used to arrange entries; it means nothing else. -/
def order : Value → Value → Ordering
  | .bool a, .bool b => compare a b
  | .int a, .int b => compare a b
  | .float a, .float b => a.order b
  | .text a, .text b => compare a b
  | .bytes a, .bytes b => orderLists a b
  | .date a, .date b => compare a.toOrdinal b.toOrdinal
  | .timestamp a, .timestamp b =>
    (compare a.localMicros b.localMicros).then (compare a.offset.isSome b.offset.isSome)
  | .list xs, .list ys => orderItems xs ys
  | .tuple xs, .tuple ys => orderItems xs ys
  | .set xs, .set ys => orderItems xs ys
  | .map xs, .map ys => orderEntries xs ys
  | a, b => compare a.kind b.kind

def orderItems : List Value → List Value → Ordering
  | [], [] => .eq
  | [], _ :: _ => .lt
  | _ :: _, [] => .gt
  | x :: xs, y :: ys => (order x y).then (orderItems xs ys)

def orderEntries : List (Value × Value) → List (Value × Value) → Ordering
  | [], [] => .eq
  | [], _ :: _ => .lt
  | _ :: _, [] => .gt
  | (k, v) :: xs, (l, w) :: ys =>
    (order k l).then ((order v w).then (orderEntries xs ys))

end

mutual

/-- The normal form of a value, with truth values turned into what is asked for. -/
def normalBy (truth : Bool → Value) : Value → Value
  | .bool b => truth b
  | .float x =>
    match x.toInt? with
    | some n => .int n
    | none => .float x.reduced
  | .timestamp t => .timestamp (t.offset.elim t fun _ => t.toUniversal?.getD t)
  | .list xs => .list (normalItems truth xs)
  | .tuple xs => .tuple (normalItems truth xs)
  | .set xs => .set ((normalItems truth xs).mergeSort fun a b => (order a b).isLE)
  | .map es => .map ((normalEntries truth es).mergeSort fun a b => (order a.1 b.1).isLE)
  | v => v

def normalItems (truth : Bool → Value) : List Value → List Value
  | [] => []
  | x :: xs => normalBy truth x :: normalItems truth xs

def normalEntries (truth : Bool → Value) : List (Value × Value) → List (Value × Value)
  | [] => []
  | (k, v) :: es => (normalBy truth k, normalBy truth v) :: normalEntries truth es

end

/-- A truth value counts as one or zero. -/
def truthNumber (b : Bool) : Value :=
  .int (if b then 1 else 0)

def normal (v : Value) : Value :=
  v.normalBy truthNumber

def same (a b : Value) : Bool :=
  a.normal = b.normal

/-- Sameness under which a truth value is the same as no number. -/
def strictlySame (a b : Value) : Bool :=
  a.normalBy .bool = b.normalBy .bool

instance : BEq Value := ⟨same⟩

theorem beq_iff_normal {a b : Value} : (a == b) = true ↔ a.normal = b.normal := by
  simp [BEq.beq, same]

instance : EquivBEq Value where
  rfl := beq_iff_normal.2 rfl
  symm h := beq_iff_normal.2 (beq_iff_normal.1 h).symm
  trans h g := beq_iff_normal.2 ((beq_iff_normal.1 h).trans (beq_iff_normal.1 g))

@[simp] theorem text_beq_text (s t : String) : (Value.text s == Value.text t) = (s == t) := by
  rw [Bool.eq_iff_iff, beq_iff_normal]
  simp [normal, normalBy]

theorem text_beq {s : String} {v : Value} : (Value.text s == v) = true ↔ v = .text s := by
  rw [beq_iff_normal]
  cases v with
  | float x => cases h : x.toInt? <;> simp [normal, normalBy, h]
  | text t => simp only [normal, normalBy, Value.text.injEq]; exact eq_comm
  | _ => simp [normal, normalBy, truthNumber]

end Value

end ServiceBlueprint
