/-!
# Tables in order of insertion

A table is a list of entries with distinct keys, kept in the order in which the keys first came.
Keys are compared with `==`, which need not be equality: a key that is already there stays as it
was first written.
-/

namespace ServiceBlueprint

abbrev Table (κ ν : Type) := List (κ × ν)

namespace Table

variable {κ ν : Type} [BEq κ]

def find? (t : Table κ ν) (key : κ) : Option ν :=
  match t with
  | [] => none
  | (k, v) :: rest => if k == key then some v else find? rest key

def hasKey (t : Table κ ν) (key : κ) : Bool :=
  (t.find? key).isSome

/-- A key that is there takes the new value; another one is added at the end. -/
def insert (t : Table κ ν) (key : κ) (value : ν) : Table κ ν :=
  match t with
  | [] => [(key, value)]
  | (k, v) :: rest => if k == key then (k, value) :: rest else (k, v) :: insert rest key value

/-- Adds the key with the given value unless it is there. -/
def ensure (t : Table κ ν) (key : κ) (value : ν) : Table κ ν :=
  if t.hasKey key then t else t ++ [(key, value)]

/-- Changes the value at a key, if it is there. -/
def modify (t : Table κ ν) (key : κ) (f : ν → ν) : Table κ ν :=
  t.map fun e => if e.1 == key then (e.1, f e.2) else e

def erase (t : Table κ ν) (key : κ) : Table κ ν :=
  t.filter fun e => !(e.1 == key)

def ofList (entries : List (κ × ν)) : Table κ ν :=
  entries.foldl (fun t e => t.insert e.1 e.2) []

def keys (t : Table κ ν) : List κ :=
  t.map (·.1)

/-- Collects values under their keys, in order. -/
def group (entries : List (κ × ν)) : Table κ (List ν) :=
  entries.foldl (fun t e => (t.ensure e.1 []).modify e.1 (· ++ [e.2])) []

end Table

/-- Adds an element at the end unless it is there. -/
def addUnlessThere {κ : Type} [BEq κ] (xs : List κ) (x : κ) : List κ :=
  if xs.contains x then xs else xs ++ [x]

end ServiceBlueprint
