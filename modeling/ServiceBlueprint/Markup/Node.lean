import ServiceBlueprint.Markup.Lexer
import ServiceBlueprint.Markup.Tag
import ServiceBlueprint.Table

/-!
# The nodes of a document

A document is a graph: a node is known by its number, and an alias stands for the number of the
node it names, which may be one of those around it. `Graph.ofTokens` reads the only document of a
text; a second one is refused.
-/

namespace ServiceBlueprint.Markup

inductive Node where
  | scalar (tag : Tag) (text : String)
  | sequence (tag : Tag) (items : List Nat)
  | mapping (tag : Tag) (entries : List (Nat × Nat))
  deriving Inhabited

structure Graph where
  nodes : Array Node
  root : Option Nat

structure ParserState where
  tokens : List Token
  /-- What happens when a token beyond the last one is needed. -/
  ending : Failure
  nodes : Array Node
  anchors : Table String Nat
  handles : Table String String

abbrev Parse := StateT ParserState (Except Failure)

def reject {α : Type} : Parse α := throw .malformed

def next : Parse Token := do
  let s ← get
  match s.tokens with
  | t :: _ => return t
  | [] => throw s.ending

def drop : Parse Unit :=
  modify fun s => { s with tokens := s.tokens.tail }

/-- Consumes the token if it comes next. -/
def accept (t : Token) : Parse Bool := do
  if (← next) = t then
    drop
    return true
  else return false

def addNode (n : Node) : Parse Nat := do
  let s ← get
  set { s with nodes := s.nodes.push n }
  return s.nodes.size

def emptyNode : Parse Nat :=
  addNode (.scalar .null "")

/-! ### Properties of a node -/

/-- A tag as written: its full name, or the mark that leaves the kind open. -/
inductive WrittenTag where
  | none
  | open
  | full (name : String)
  deriving DecidableEq, Repr

structure Properties where
  anchor : Option String
  tag : WrittenTag

def writtenTag (name : String) : WrittenTag :=
  if name = "!" then .open else .full name

def expandTag (handle : Option String) (suffix : String) : Parse WrittenTag := do
  match handle with
  | .none => return writtenTag suffix
  | some h =>
    match (← get).handles.find? h with
    | some meaning => return writtenTag (meaning ++ suffix)
    | .none => reject

def acceptAnchor : Parse (Option String) := do
  match ← next with
  | .anchor name =>
    drop
    return some name
  | _ => return .none

def acceptTag : Parse (Option (Option String × String)) := do
  match ← next with
  | .tag handle suffix =>
    drop
    return some (handle, suffix)
  | _ => return .none

/-- An anchor and a tag, in either order and each at most once. -/
def properties : Parse Properties := do
  let first ← acceptAnchor
  let tag ← acceptTag
  let second ← if first.isNone && tag.isSome then acceptAnchor else pure .none
  let tag ← match tag with
    | some (handle, suffix) => expandTag handle suffix
    | .none => pure .none
  return ⟨first <|> second, tag⟩

/-- Refuses an anchor that is in use. -/
def checkAnchor (p : Properties) : Parse Unit := do
  match p.anchor with
  | some a => if (← get).anchors.hasKey a then reject
  | .none => return

def setAnchor (p : Properties) (id : Nat) : Parse Unit :=
  match p.anchor with
  | some a => modify fun s => { s with anchors := s.anchors.insert a id }
  | .none => return

def collectionTag (usual : Tag) : WrittenTag → Tag
  | .none => usual
  | .open => usual
  | .full name => Tag.ofName name

/-- Only a plain scalar without a tag, or one whose tag leaves it open, is resolved by its text. -/
def scalarTag (text : String) (plain : Bool) : WrittenTag → Tag
  | .none => if plain then Tag.ofPlain text else .text
  | .open => Tag.ofPlain text
  | .full name => Tag.ofName name

/-- An empty scalar is null unless its tag says otherwise. -/
def emptyTag : WrittenTag → Tag
  | .full name => Tag.ofName name
  | _ => .null

/-- Where a node stands, which decides what collections may begin there. -/
inductive Place where
  | flow
  | block
  /-- A key or value of a block mapping, where the entries of a sequence need no indentation. -/
  | entry
  deriving DecidableEq, Repr

def isOneOf (ts : List Token) : Parse Bool := do
  return ts.contains (← next)

/-- Reserves a node, so that its content may refer to it. -/
def reserve (p : Properties) : Parse Nat := do
  checkAnchor p
  let id ← emptyNode
  setAnchor p id
  return id

def fill (id : Nat) (n : Node) : Parse Nat := do
  modify fun s => { s with nodes := s.nodes.setIfInBounds id n }
  return id

/-- A node without content has to have an anchor or a tag. -/
def bareNode (p : Properties) : Parse Nat := do
  if p.anchor.isNone && p.tag = .none then reject
  checkAnchor p
  let id ← addNode (.scalar (emptyTag p.tag) "")
  setAnchor p id
  return id

mutual

def parseNode (place : Place) : Nat → Parse Nat
  | 0 => reject
  | fuel + 1 => do
    match ← next with
    | .alias name =>
      drop
      match (← get).anchors.find? name with
      | some id => return id
      | none => reject
    | _ =>
      let p ← properties
      match ← next with
      | .scalar text plain =>
        drop
        checkAnchor p
        let id ← addNode (.scalar (scalarTag text plain p.tag) text)
        setAnchor p id
        return id
      | .blockEntry =>
        if place = .entry then
          let id ← reserve p
          fill id (.sequence (collectionTag .sequence p.tag) (← parseLooseItems fuel))
        else bareNode p
      | .flowSequenceStart =>
        let id ← reserve p
        drop
        fill id (.sequence (collectionTag .sequence p.tag) (← parseFlowItems true fuel))
      | .flowMappingStart =>
        let id ← reserve p
        drop
        fill id (.mapping (collectionTag .mapping p.tag) (← parseFlowEntries true fuel))
      | .blockSequenceStart =>
        if place = .flow then bareNode p
        else
          let id ← reserve p
          drop
          fill id (.sequence (collectionTag .sequence p.tag) (← parseBlockItems fuel))
      | .blockMappingStart =>
        if place = .flow then bareNode p
        else
          let id ← reserve p
          drop
          fill id (.mapping (collectionTag .mapping p.tag) (← parseBlockEntries fuel))
      | _ => bareNode p

/-- A node, or an empty one if one of the given tokens comes next. -/
def parseUnless (stops : List Token) (place : Place) : Nat → Parse Nat
  | 0 => reject
  | fuel + 1 => do
    if ← isOneOf stops then emptyNode else parseNode place fuel

/-- The value of an entry, if its token comes next. -/
def parseValue (stops : List Token) (place : Place) : Nat → Parse Nat
  | 0 => reject
  | fuel + 1 => do
    if ← accept .value then parseUnless stops place fuel else emptyNode

/-- Items of a sequence that is not indented; whatever is no entry ends it. -/
def parseLooseItems : Nat → Parse (List Nat)
  | 0 => reject
  | fuel + 1 => do
    if ← accept .blockEntry then
      let item ← parseUnless [.blockEntry, .key, .value, .blockEnd] .block fuel
      return item :: (← parseLooseItems fuel)
    else return []

def parseBlockItems : Nat → Parse (List Nat)
  | 0 => reject
  | fuel + 1 => do
    if ← accept .blockEntry then
      let item ← parseUnless [.blockEntry, .blockEnd] .block fuel
      return item :: (← parseBlockItems fuel)
    if ← accept .blockEnd then return []
    reject

def parseBlockEntries : Nat → Parse (List (Nat × Nat))
  | 0 => reject
  | fuel + 1 => do
    if ← accept .key then
      let stops : List Token := [.key, .value, .blockEnd]
      let key ← parseUnless stops .entry fuel
      let value ← parseValue stops .entry fuel
      return (key, value) :: (← parseBlockEntries fuel)
    if ← accept .blockEnd then return []
    reject

/-- Items up to the closing bracket. A pair among them is a mapping with one entry. -/
def parseFlowItems (first : Bool) : Nat → Parse (List Nat)
  | 0 => reject
  | fuel + 1 => do
    if ← accept .flowSequenceEnd then return []
    if !first then
      if !(← accept .flowEntry) then reject
      if ← accept .flowSequenceEnd then return []
    if ← accept .key then
      let id ← emptyNode
      let key ← parseUnless [.value, .flowEntry, .flowSequenceEnd] .flow fuel
      let value ← parseValue [.flowEntry, .flowSequenceEnd] .flow fuel
      let item ← fill id (.mapping .mapping [(key, value)])
      return item :: (← parseFlowItems false fuel)
    let item ← parseNode .flow fuel
    return item :: (← parseFlowItems false fuel)

def parseFlowEntries (first : Bool) : Nat → Parse (List (Nat × Nat))
  | 0 => reject
  | fuel + 1 => do
    if ← accept .flowMappingEnd then return []
    if !first then
      if !(← accept .flowEntry) then reject
      if ← accept .flowMappingEnd then return []
    if ← accept .key then
      let key ← parseUnless [.value, .flowEntry, .flowMappingEnd] .flow fuel
      let value ← parseValue [.flowEntry, .flowMappingEnd] .flow fuel
      return (key, value) :: (← parseFlowEntries false fuel)
    let key ← parseNode .flow fuel
    let value ← emptyNode
    return (key, value) :: (← parseFlowEntries false fuel)

end

/-! ### Documents -/

def defaultHandles : Table String String :=
  [("!", "!"), ("!!", Tag.standardName)]

/-- The directives in front of a document. A version may be given once and has to be one. -/
def parseDirectives : Nat → (versioned : Bool) → Table String String → Parse (Table String String)
  | 0, _, _ => reject
  | fuel + 1, versioned, handles => do
    match ← next with
    | .directive (.version major) =>
      drop
      if versioned || major ≠ 1 then reject
      parseDirectives fuel true handles
    | .directive (.handle name meaning) =>
      drop
      if handles.hasKey name then reject
      parseDirectives fuel versioned (handles.insert name meaning)
    | .directive .other =>
      drop
      parseDirectives fuel versioned handles
    | _ => return handles

def isDirective : Token → Bool
  | .directive _ => true
  | _ => false

/-- The start of a document that is announced, and its content, which may be missing. -/
def parseAnnounced (fuel : Nat) : Parse Nat := do
  let handles ← parseDirectives fuel false []
  if !(← accept .documentStart) then reject
  let handles := defaultHandles.foldl (fun t e => t.ensure e.1 e.2) handles
  modify fun s => { s with handles := handles }
  let t ← next
  if isDirective t || [Token.documentStart, .documentEnd, .streamEnd].contains t then emptyNode
  else parseNode .block fuel

def parseFirst (fuel : Nat) : Parse (Option Nat) := do
  let t ← next
  if t = .streamEnd then return none
  if isDirective t || t = .documentStart then return some (← parseAnnounced fuel)
  modify fun s => { s with handles := defaultHandles }
  return some (← parseNode .block fuel)

/-- Nothing but the ends of documents may follow the first document. -/
def parseEnd : Nat → Parse Unit
  | 0 => reject
  | fuel + 1 => do
    if ← accept .documentEnd then parseEnd fuel
    else if (← next) = .streamEnd then return
    else
      let _ ← parseDirectives fuel false []
      let _ ← next
      reject

def Graph.ofTokens (tokens : List Token) (ending : Failure) : Except Failure Graph := do
  let fuel := 4 * tokens.length + 8
  let parse : Parse (Option Nat) := do
    let root ← parseFirst fuel
    if root.isSome then parseEnd fuel
    return root
  let (root, s) ← parse.run ⟨tokens, ending, #[], [], []⟩
  return ⟨s.nodes, root⟩

end ServiceBlueprint.Markup
