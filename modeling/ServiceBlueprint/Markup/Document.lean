import ServiceBlueprint.Markup.Lexer
import ServiceBlueprint.Markup.Node
import ServiceBlueprint.Markup.Scalar
import ServiceBlueprint.Value.Access

/-!
# The value of a document

The nodes of a graph are given content breadth first: a collection is entered when it is met and
filled when its turn comes. Before a mapping is filled, the entries of the mappings it merges are
put in front of its own. At last the contents are put together, a shared node being put together
once; a collection that holds itself is cut off at a depth that no other one reaches.
-/

namespace ServiceBlueprint.Markup

/-- What a node holds, its parts being known by their numbers. -/
inductive Content where
  | whole (v : Value)
  | list (items : List Nat)
  | pairs (entries : List (Nat × Nat))
  | set (members : List Nat)
  | map (entries : List (Nat × Nat))
  deriving Inhabited

structure FillState where
  nodes : Array Node
  contents : Array (Option Content)
  /-- Collections that are entered and not yet filled. -/
  waiting : List Nat
  /-- No chain of merges is longer. -/
  bound : Nat

abbrev Fill := StateT FillState (Except Failure)

def broken {α : Type} : Fill α := throw .malformed

def nodeAt (id : Nat) : Fill Node := do
  return (← get).nodes[id]?.getD default

def setNode (id : Nat) (n : Node) : Fill Unit :=
  modify fun s => { s with nodes := s.nodes.setIfInBounds id n }

def setContent (id : Nat) (c : Content) : Fill Unit :=
  modify fun s => { s with contents := s.contents.setIfInBounds id (some c) }

def Node.tag : Node → Tag
  | .scalar tag _ => tag
  | .sequence tag _ => tag
  | .mapping tag _ => tag

def Node.withTag (tag : Tag) : Node → Node
  | .scalar _ text => .scalar tag text
  | .sequence _ items => .sequence tag items
  | .mapping _ entries => .mapping tag entries

/-! ### Merging -/

def entriesOf (id : Nat) : Fill (Option (List (Nat × Nat))) := do
  match ← nodeAt id with
  | .mapping _ entries => return some entries
  | _ => return none

def setEntries (id : Nat) (entries : List (Nat × Nat)) : Fill Unit := do
  setNode id (.mapping (← nodeAt id).tag entries)

/-- Takes out the first entry of a mapping that merges, and gives what it merges. -/
def takeMerge (id : Nat) : Fill (Option Nat) := do
  let entries := (← entriesOf id).getD []
  let tags ← entries.mapM fun e => return (← nodeAt e.1).tag
  match tags.findIdx? (· = .merge) with
  | some i =>
    setEntries id (entries.eraseIdx i)
    return entries[i]?.map (·.2)
  | none => return none

/-- The key that stands for a standard value counts as text. -/
def retagKeys (id : Nat) : Fill Unit := do
  for (key, _) in (← entriesOf id).getD [] do
    let n ← nodeAt key
    if n.tag = .standard then setNode key (n.withTag .text)

mutual

/-- Puts the entries that a mapping merges in front of its own. -/
def flatten : Nat → Nat → Fill Unit
  | 0, _ => throw (.faulty .tooDeep)
  | fuel + 1, id => do
    let merged ← takeMerges fuel id
    retagKeys id
    setEntries id (merged ++ (← entriesOf id).getD [])

def takeMerges : Nat → Nat → Fill (List (Nat × Nat))
  | 0, _ => throw (.faulty .tooDeep)
  | fuel + 1, id => do
    match ← takeMerge id with
    | none => return []
    | some source =>
      let found ← mergedEntries fuel source
      return found ++ (← takeMerges fuel id)

/-- The entries of a mapping, or of the mappings of a sequence, the last of which comes first. -/
def mergedEntries : Nat → Nat → Fill (List (Nat × Nat))
  | 0, _ => throw (.faulty .tooDeep)
  | fuel + 1, source => do
    match ← nodeAt source with
    | .mapping .. => flattened fuel source
    | .sequence _ items =>
      let found ← items.mapM (flattened fuel)
      return found.reverse.flatten
    | .scalar .. => broken

def flattened : Nat → Nat → Fill (List (Nat × Nat))
  | 0, _ => throw (.faulty .tooDeep)
  | fuel + 1, id => do
    if (← entriesOf id).isNone then broken
    flatten fuel id
    return (← entriesOf id).getD []

end

/-! ### Entering nodes -/

/-- The text of a scalar; a mapping may hold it at the key for its standard value. -/
def textOf : Nat → Nat → Fill String
  | 0, _ => throw (.faulty .tooDeep)
  | fuel + 1, id => do
    match ← nodeAt id with
    | .scalar _ text => return text
    | .sequence .. => broken
    | .mapping _ entries =>
      let tagged ← entries.mapM fun e => return ((← nodeAt e.1).tag, e.2)
      match tagged.find? (·.1 = .standard) with
      | some (_, value) => textOf fuel value
      | none => broken

def isScalar (id : Nat) : Fill Bool := do
  match ← nodeAt id with
  | .scalar .. => return true
  | _ => return false

def wholeContent (tag : Tag) (id : Nat) : Fill Content := do
  let text ← textOf (← get).bound id
  if tag = .timestamp ∧ !(← isScalar id) then throw (.faulty .wrongType)
  return .whole (← readScalar tag text)

/-- The content with which a node is entered. -/
def initialContent (id : Nat) : Fill Content := do
  match (← nodeAt id).tag with
  | .sequence => return .list []
  | .mapping => return .map []
  | .set => return .set []
  | .orderedMap => return .pairs []
  | .pairs => return .pairs []
  | tag =>
    if [Tag.merge, .standard, .unknown].contains tag then broken
    wholeContent tag id

def enter (id : Nat) : Fill Content := do
  match ((← get).contents[id]?).join with
  | some c => return c
  | none =>
    let c ← initialContent id
    setContent id c
    match c with
    | .whole _ => return c
    | _ =>
      modify fun s => { s with waiting := s.waiting ++ [id] }
      return c

/-- A collection may not be a key. -/
def enterKey (id : Nat) : Fill Unit := do
  match ← enter id with
  | .whole _ => return
  | _ => broken

/-! ### Filling collections -/

def enterEntries (id : Nat) : Fill (List (Nat × Nat)) := do
  let entries ← flattened (← get).bound id
  for (key, value) in entries do
    enterKey key
    let _ ← enter value
  return entries

def enterPair (id : Nat) : Fill (Nat × Nat) := do
  match ← nodeAt id with
  | .mapping _ [(key, value)] =>
    let _ ← enter key
    let _ ← enter value
    return (key, value)
  | _ => broken

def itemsOf (id : Nat) : Fill (List Nat) := do
  match ← nodeAt id with
  | .sequence _ items => return items
  | _ => broken

def fillContent (id : Nat) : Content → Fill Content
  | .list _ => do
    let items ← itemsOf id
    for item in items do
      let _ ← enter item
    return .list items
  | .map _ => return .map (← enterEntries id)
  | .set _ => return .set ((← enterEntries id).map (·.1))
  | .pairs _ => return .pairs (← (← itemsOf id).mapM enterPair)
  | .whole v => return .whole v

/-- Fills collections in the order in which they were entered. -/
def fillWaiting : Nat → Fill Unit
  | 0 => return
  | fuel + 1 => do
    match (← get).waiting with
    | [] => return
    | id :: rest =>
      modify fun s => { s with waiting := rest }
      match ((← get).contents[id]?).join with
      | some c => setContent id (← fillContent id c)
      | none => return
      fillWaiting fuel

/-! ### Putting values together -/

/-- The value of a node, with the values of the nodes that were put together before. -/
def valueAt (contents : Array (Option Content)) :
    Nat → Nat → StateM (Array (Option Value)) Value
  | 0, _ => return .null
  | fuel + 1, id => do
    match ((← get)[id]?).join with
    | some v => return v
    | none =>
      let pairAt (e : Nat × Nat) : StateM (Array (Option Value)) (Value × Value) := do
        let k ← valueAt contents fuel e.1
        let v ← valueAt contents fuel e.2
        return (k, v)
      let v ← match ((contents[id]?).join).getD (.whole .null) with
        | .whole v => pure v
        | .list items => pure (.list (← items.mapM (valueAt contents fuel)))
        | .pairs entries =>
          let pairs ← entries.mapM pairAt
          pure (.list (pairs.map fun e => .tuple [e.1, e.2]))
        | .set members =>
          let members ← members.mapM (valueAt contents fuel)
          pure (.set (members.foldl addUnlessThere []))
        | .map entries => pure (.map (Table.ofList (← entries.mapM pairAt)))
      modify fun known => known.setIfInBounds id (some v)
      return v

def Node.size : Node → Nat
  | .scalar .. => 1
  | .sequence _ items => items.length + 1
  | .mapping _ entries => entries.length + 1

def Graph.toValue (g : Graph) : Except Failure Value :=
  match g.root with
  | none => .ok .null
  | some root => do
    let size := g.nodes.size
    let fill : Fill Unit := do
      let _ ← enter root
      fillWaiting (size + 1)
    let bound := 5 * g.nodes.toList.foldl (fun total n => total + n.size) 0 + 8
    let (_, s) ← fill.run ⟨g.nodes, Array.replicate size none, [], bound⟩
    return ((valueAt s.contents (size + 1) root).run (Array.replicate size none)).1

/-- The value of the only document of a text, or null if there is none. -/
def read (text : String) : Except Failure Value := do
  let (tokens, ending) := Token.ofText text
  (← Graph.ofTokens tokens ending).toValue

end ServiceBlueprint.Markup
