import ServiceBlueprint.Fault
import ServiceBlueprint.Number.Reading
import ServiceBlueprint.Table
import ServiceBlueprint.Value.Same

/-!
# Reading dynamic values

Each operation has a domain of kinds on which it is defined and a fault for the others. Whether a
key is present may be asked of any collection; only a map gives the value at a key.
-/

namespace ServiceBlueprint.Value

def truthy : Value → Bool
  | .null => false
  | .bool b => b
  | .int n => n ≠ 0
  | .float x => !x.isZero
  | .text s => s ≠ ""
  | .bytes bs => !bs.isEmpty
  | .date _ => true
  | .timestamp _ => true
  | .list xs => !xs.isEmpty
  | .tuple xs => !xs.isEmpty
  | .set xs => !xs.isEmpty
  | .map es => !es.isEmpty

def isNull : Value → Bool
  | .null => true
  | _ => false

def isText : Value → Bool
  | .text _ => true
  | _ => false

def text? : Value → Option String
  | .text s => some s
  | _ => none

def isMap : Value → Bool
  | .map _ => true
  | _ => false

def isList : Value → Bool
  | .list _ => true
  | _ => false

mutual

/-- Whether a value may be a key: collections that can change may not. -/
def isKey : Value → Bool
  | .list _ => false
  | .set _ => false
  | .map _ => false
  | .tuple xs => areKeys xs
  | _ => true

def areKeys : List Value → Bool
  | [] => true
  | x :: xs => isKey x && areKeys xs

end

/-- Refuses a value that may not be a key. -/
def asKey (v : Value) : Attempt Value :=
  if v.isKey then .ok v else .error .wrongType

def ofChar (c : Char) : Value :=
  .text (String.singleton c)

/-- The elements that a collection runs through; a map runs through its keys. -/
def elements : Value → Attempt (List Value)
  | .list xs => .ok xs
  | .tuple xs => .ok xs
  | .set xs => .ok xs
  | .map es => .ok (es.map (·.1))
  | .text s => .ok (s.toList.map ofChar)
  | .bytes bs => .ok (bs.map fun (b : Nat) => .int b)
  | _ => .error .wrongType

/-- The value of a map at a text key, if the value is a map and has the key. -/
def get? (v : Value) (key : String) : Option Value :=
  match v with
  | .map es => Table.find? es (.text key)
  | _ => none

/-- The value at a key, if there is one; only a map can be asked. -/
def lookup (v : Value) (key : String) : Attempt (Option Value) :=
  match v with
  | .map es => .ok (Table.find? es (.text key))
  | _ => .error .missingAttribute

/-- Whether one list of characters occurs in another without gaps. -/
def occursIn (needle : List Char) : List Char → Bool
  | [] => needle.isEmpty
  | c :: rest => needle.isPrefixOf (c :: rest) || occursIn needle rest

/-- Whether a key or member is present. -/
def has (v : Value) (key : String) : Attempt Bool :=
  match v with
  | .map es => .ok (Table.find? es (.text key)).isSome
  | .list xs => .ok (xs.contains (.text key))
  | .tuple xs => .ok (xs.contains (.text key))
  | .set xs => .ok (xs.contains (.text key))
  | .text s => .ok (occursIn key.toList s.toList)
  | _ => .error .wrongType

/-- The value of a map at a key that must be there. -/
def index (v : Value) (key : String) : Attempt Value :=
  match v with
  | .map es =>
    match Table.find? es (.text key) with
    | some w => .ok w
    | none => .error .missingKey
  | _ => .error .wrongType

def toInt : Value → Attempt Int
  | .bool b => .ok (if b then 1 else 0)
  | .int n => .ok n
  | .float x =>
    match x.truncate? with
    | some n => .ok n
    | none => .error (if x = .indeterminate then .invalidValue else .outOfRange)
  | .text s =>
    match Number.readInt? s with
    | some n => .ok n
    | none => .error .invalidValue
  | _ => .error .wrongType

def toFloat : Value → Attempt Binary64
  | .bool b => .ok (.ofInt (if b then 1 else 0))
  | .int n =>
    match Binary64.ofInt n with
    | .infinite _ => .error .outOfRange
    | x => .ok x
  | .float x => .ok x
  | .text s =>
    match Number.readFloat? s with
    | some x => .ok x
    | none => .error .invalidValue
  | _ => .error .wrongType

/-- A number or truth value as a number. -/
inductive Quantity where
  | whole (n : Int)
  | real (x : Binary64)

def quantity? : Value → Option Quantity
  | .bool b => some (.whole (if b then 1 else 0))
  | .int n => some (.whole n)
  | .float x => some (.real x)
  | _ => none

/-- The order of two quantities by exact value, unless one is indeterminate. -/
def Quantity.compare? : Quantity → Quantity → Option Ordering
  | .whole a, .whole b => some (compare a b)
  | .whole a, .real y => (y.compareInt? a).map Ordering.swap
  | .real x, .whole b => x.compareInt? b
  | .real x, .real y => x.compare? y

/-- Numbers that are not truth values. -/
def number? : Value → Option Quantity
  | .int n => some (.whole n)
  | .float x => some (.real x)
  | _ => none

/-- The two parts of an element that is to become an entry. -/
def asPair (v : Value) : Attempt (Value × Value) := do
  match ← v.elements with
  | [k, w] => do
    let k ← k.asKey
    return (k, w)
  | _ => throw .invalidValue

/-- The entries of a map, or of a collection of pairs. -/
def toEntries (v : Value) : Attempt (List (Value × Value)) :=
  match v with
  | .map es => .ok es
  | v => do
    let xs ← v.elements
    xs.foldlM (fun es x => do let (k, w) ← x.asPair; return Table.insert es k w) []

def allText? (vs : List Value) : Option (List String) :=
  vs.mapM text?

def allQuantities? (vs : List Value) : Option (List (Quantity × Value)) :=
  vs.mapM fun v => v.quantity?.map (·, v)

/-- Values in ascending order: texts by their characters, quantities by size. Two or more values
that are not of one kind have no order. -/
def sorted (vs : List Value) : Attempt (List Value) :=
  if vs.length ≤ 1 then .ok vs
  else
    match allText? vs, allQuantities? vs with
    | some ss, _ => .ok ((ss.mergeSort fun a b => decide (a ≤ b)).map .text)
    | none, some qs =>
      .ok ((qs.mergeSort fun a b => a.1.compare? b.1 ≠ some .gt).map (·.2))
    | none, none => .error .wrongType

/-- The first of several spellings of a key that is present, with its value. -/
def pick (v : Value) : List String → Attempt (Option Value)
  | [] => .ok none
  | key :: others => do
    if ← v.has key then return some (← v.index key)
    v.pick others

/-- The value at the first of several spellings of a key that a map has. -/
def lookupFirst (v : Value) : List String → Attempt (Option Value)
  | [] => .ok none
  | key :: others => do
    match ← v.lookup key with
    | some w => return some w
    | none => v.lookupFirst others

end ServiceBlueprint.Value
