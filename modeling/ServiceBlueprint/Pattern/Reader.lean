import ServiceBlueprint.Number.Reading
import ServiceBlueprint.Pattern.Syntax
import ServiceBlueprint.Table
import ServiceBlueprint.Text.Identifier
import ServiceBlueprint.Text.Name

/-!
# Reading patterns

`Pattern.read` turns a text into a pattern or says why it is none. Flags may be set for the whole
pattern at its start, or for a group. An assertion that looks behind must have one fixed width, and
a group may be referred to only after it has been closed. The text is taken in tokens: a backslash
goes with the character behind it, also where neither means anything, as in comments.
-/

namespace ServiceBlueprint.Pattern

inductive Token where
  | plain (c : Char)
  | escaped (c : Char)
  /-- A backslash that ends the text. Reading fails as soon as this token comes next. -/
  | cut
  deriving DecidableEq, Repr

def Token.ofText : List Char → List Token
  | [] => []
  | c :: cs =>
    if c = '\\' then
      match cs with
      | [] => [.cut]
      | d :: ds => .escaped d :: ofText ds
    else .plain c :: ofText cs

def Token.isPlain (p : Char → Bool) : Token → Bool
  | .plain c => p c
  | _ => false

/-- The characters of a token as they are written. -/
def Token.chars : Token → List Char
  | .plain c => [c]
  | .escaped c => ['\\', c]
  | .cut => ['\\']

/-- The tokens of a text are all of it. -/
theorem Token.flatMap_chars_ofText (cs : List Char) : (ofText cs).flatMap chars = cs := by
  fun_induction ofText cs with
  | case1 => rfl
  | case2 => rfl
  | case3 d ds ih => rw [List.flatMap_cons, ih]; rfl
  | case4 c cs hc ih => rw [List.flatMap_cons, ih]; rfl

structure Flags where
  ignoreCase : Bool
  multiline : Bool
  dotAll : Bool
  verbose : Bool
  ascii : Bool
  unicode : Bool
  plain : Bool

def Flags.none : Flags := ⟨false, false, false, false, false, false, false⟩

def Flags.or (a b : Flags) : Flags :=
  ⟨a.ignoreCase || b.ignoreCase, a.multiline || b.multiline, a.dotAll || b.dotAll,
    a.verbose || b.verbose, a.ascii || b.ascii, a.unicode || b.unicode, a.plain || b.plain⟩

/-- Flags of a group inside the flags around it. -/
def Flags.scoped (outer add del : Flags) : Flags :=
  let typed := add.ascii || add.unicode
  { ignoreCase := (outer.ignoreCase || add.ignoreCase) && !del.ignoreCase
    multiline := (outer.multiline || add.multiline) && !del.multiline
    dotAll := (outer.dotAll || add.dotAll) && !del.dotAll
    verbose := (outer.verbose || add.verbose) && !del.verbose
    ascii := if typed then add.ascii else outer.ascii
    unicode := if typed then add.unicode else outer.unicode
    plain := outer.plain }

def Flags.fold (f : Flags) : Fold :=
  if !f.ignoreCase then .exact else if f.ascii then .ascii else .unicode

structure ReaderState where
  rest : List Token
  /-- The widths of the groups opened so far; an open group has none yet. -/
  widths : List (Option Width)
  names : Table String Nat
  /-- Inside an assertion that looks behind, the number of groups opened before it. -/
  behind : Option Nat
  globals : Flags
  conditions : List Nat
  usesGroups : Bool
  /-- Whether something was read that no pattern may have, although reading goes on behind it. -/
  refused : Bool

abbrev Reader := StateT ReaderState (Except PatternError)

def fail {α : Type} : Reader α := throw .malformed

def peek? : Reader (Option Token) := do
  return (← get).rest.head?

def skip (count : Nat) : Reader Unit := do
  modify fun s => { s with rest := s.rest.drop count }
  if (← peek?) = some .cut then fail

def next : Reader Token := do
  match ← peek? with
  | some t =>
    skip 1
    return t
  | none => fail

/-- The next token, which has to be a character by itself. -/
def nextChar : Reader Char := do
  match ← next with
  | .plain c => return c
  | _ => fail

/-- Consumes the character if it comes next by itself. -/
def accept (c : Char) : Reader Bool := do
  if (← peek?) = some (.plain c) then
    skip 1
    return true
  else return false

def takeWhileMost (count : Nat) (p : Char → Bool) : Reader (List Char) := do
  let taken := ((← get).rest.take count).takeWhile (·.isPlain p)
  skip taken.length
  return taken.flatMap (·.chars)

/-- The text up to a character, which is consumed with it. -/
def readUntil (stop : Char) : Reader (List Char) := do
  let taken := (← get).rest.takeWhile (· ≠ .plain stop)
  skip taken.length
  let _ ← next
  return taken.flatMap (·.chars)

def isOctal (c : Char) : Bool := '0' ≤ c && c ≤ '7'

def isHex (c : Char) : Bool :=
  c.isDigit || ('a' ≤ c && c ≤ 'f') || ('A' ≤ c && c ≤ 'F')

def hexDigit (c : Char) : Nat :=
  if c.isDigit then c.toNat - 48 else c.toLower.toNat - 87

def number (base : Nat) (ds : List Char) : Nat :=
  ds.foldl (fun n c => base * n + hexDigit c) 0

/-- Exactly `count` hexadecimal digits. -/
def readHex (count : Nat) : Reader Nat := do
  let ds ← takeWhileMost count isHex
  if ds.length = count then return number 16 ds else fail

def controlEscape? : Char → Option Nat
  | 'a' => some 7
  | 'f' => some 12
  | 'n' => some 10
  | 'r' => some 13
  | 't' => some 9
  | 'v' => some 11
  | '\\' => some 92
  | _ => none

def categoryEscape? : Char → Option (Category × Bool)
  | 'd' => some (.digit, false)
  | 'D' => some (.digit, true)
  | 's' => some (.space, false)
  | 'S' => some (.space, true)
  | 'w' => some (.word, false)
  | 'W' => some (.word, true)
  | _ => none

def expect (c : Char) : Reader Unit := do
  if !(← accept c) then fail

/-- A name that is not empty, up to the given character. -/
def readNameUntil (stop : Char) : Reader String := do
  let cs ← readUntil stop
  if cs.isEmpty then fail
  return String.ofList cs

/-- The code point of an escape by number or by name, for the letters that take one. -/
def readCodePoint (c : Char) : Reader (Option Nat) := do
  if c = 'x' then return some (← readHex 2)
  if c = 'u' then return some (← readHex 4)
  if c = 'U' then
    let n ← readHex 8
    if n ≥ 0x80000000 then throw .numberTooLarge
    if n ≤ 0x10FFFF then return some n else fail
  if c = 'N' then
    expect '\x7b'
    match Text.codeNamed? (← readNameUntil '\x7d') with
    | some n => return some n
    | none => fail
  return none

/-- Any other escaped character stands for itself, unless it is an ASCII letter. -/
def plainEscape (c : Char) : Reader Nat :=
  if c.isAlpha then fail else return c.toNat

def readSetEscape (flags : Flags) (c : Char) : Reader SetItem := do
  if c = 'b' then return .single 8
  if let some n := controlEscape? c then return .single n
  if let some (kind, negated) := categoryEscape? c then return .category kind negated flags.ascii
  if let some n ← readCodePoint c then return .single n
  if isOctal c then
    let n := number 8 (c :: (← takeWhileMost 2 isOctal))
    if n ≤ 0o377 then return .single n else fail
  if c.isDigit then fail
  return .single (← plainEscape c)

def literal (flags : Flags) (n : Nat) : Node :=
  .set false [.single n] flags.fold

def groupWidth? (index : Nat) : Reader (Option Width) := do
  return ((← get).widths[index - 1]?).join

/-- A group that can be referred to from inside an assertion that looks behind. -/
def checkBehind (index : Nat) : Reader Unit := do
  match (← get).behind with
  | none => return
  | some before =>
    if (← groupWidth? index).isNone || before < index then fail

def readReference (flags : Flags) (index : Nat) : Reader Node := do
  match ← groupWidth? index with
  | none => fail
  | some w =>
    checkBehind index
    modify fun s => { s with usesGroups := true }
    return .backReference index flags.fold w

/-- Up to three octal digits are a character, fewer or other digits refer to a group. -/
def readDigitEscape (flags : Flags) (c : Char) : Reader Node := do
  if c = '0' then return literal flags (number 8 (← takeWhileMost 2 isOctal))
  match ← takeWhileMost 1 Char.isDigit with
  | [] => readReference flags (number 10 [c])
  | ds =>
    if isOctal c && ds.all isOctal then
      match ← takeWhileMost 1 isOctal with
      | [] => readReference flags (number 10 (c :: ds))
      | es =>
        let n := number 8 (c :: ds ++ es)
        if n ≤ 0o377 then return literal flags n else fail
    else readReference flags (number 10 (c :: ds))

def readEscape (flags : Flags) (c : Char) : Reader Node := do
  if c = 'A' then return .anchor .textStart
  if c = 'Z' then return .anchor .textEnd
  if c = 'b' then return .anchor (.wordBoundary flags.ascii)
  if c = 'B' then return .anchor (.noWordBoundary flags.ascii)
  if let some (kind, negated) := categoryEscape? c then
    return .set false [.category kind negated flags.ascii] flags.fold
  if let some n := controlEscape? c then return literal flags n
  if let some n ← readCodePoint c then return literal flags n
  if c.isDigit then return ← readDigitEscape flags c
  return literal flags (← plainEscape c)

def readSetMember (flags : Flags) : Token → Reader SetItem
  | .plain c => return .single c.toNat
  | .escaped c => readSetEscape flags c
  | .cut => fail

/-- The members of a set up to its bracket, which counts as a member in the first place. -/
def readSetItems (flags : Flags) : Nat → (soFar : List SetItem) → Reader (List SetItem)
  | 0, _ => fail
  | fuel + 1, soFar => do
    let t ← next
    if t = .plain ']' && !soFar.isEmpty then return soFar
    let item ← readSetMember flags t
    if ← accept '-' then
      let u ← next
      if u = .plain ']' then return soFar ++ [item, .single '-'.toNat]
      let last ← readSetMember flags u
      match item, last with
      | .single lo, .single hi =>
        if hi < lo then fail
        readSetItems flags fuel (soFar ++ [.range lo hi])
      | _, _ => fail
    else readSetItems flags fuel (soFar ++ [item])

def readSet (flags : Flags) : Reader Node := do
  let negated ← accept '^'
  let items ← readSetItems flags ((← get).rest.length + 1) []
  return .set negated items flags.fold

/-- Counts from this one on are too large. -/
def countLimit : Nat := 4294967295

structure Count where
  least : Nat
  most : Option Nat

def countOf (ds : List Char) : Reader Nat := do
  if ds.length > Number.maxDigits then throw .numberTooLong
  let n := number 10 ds
  if n ≥ countLimit then throw .numberTooLarge
  return n

/-- The counts behind a brace, unless it stands for itself. -/
def readCount : Reader (Option Count) := do
  let before ← get
  if before.rest.head? = some (.plain '\x7d') then return none
  let lo ← takeWhileMost before.rest.length Char.isDigit
  let hi ← if ← accept ',' then takeWhileMost before.rest.length Char.isDigit else pure lo
  if ← accept '\x7d' then
    let least ← countOf lo
    if hi.isEmpty then return some ⟨least, none⟩
    let most ← countOf hi
    if most < least then fail
    return some ⟨least, some most⟩
  else
    set before
    return none

/-- The repetition that a character asks for, unless it stands for itself. -/
def readQuantifier (c : Char) : Reader (Option Count) :=
  if c = '?' then return some ⟨0, some 1⟩
  else if c = '*' then return some ⟨0, none⟩
  else if c = '+' then return some ⟨1, none⟩
  else readCount

def isQuantifier (c : Char) : Bool :=
  c = '?' || c = '*' || c = '+' || c = '\x7b'

def canRepeat : Node → Bool
  | .anchor _ => false
  | .repeated .. => false
  | _ => true

/-- How a repetition goes on, by the character behind it. -/
def readMode : Reader Mode := do
  if ← accept '?' then return .lazy
  if ← accept '+' then return .possessive
  return .greedy

def refuse : Reader Unit :=
  modify fun s => { s with refused := true }

/-- Repeats the last of the nodes read so far. -/
def repeatLast (flags : Flags) (nodes : List Node) (count : Count) : Reader (List Node) := do
  match nodes.getLast? with
  | none => fail
  | some node =>
    if !canRepeat node then fail
    let mode ← readMode
    if flags.plain then refuse
    return nodes.dropLast ++ [.repeated node count.least count.most mode]

def readGroupName (stop : Char) : Reader String := do
  let name ← readNameUntil stop
  if Text.isIdentifier name then return name else fail

def flag? : Char → Option Flags
  | 'i' => some { Flags.none with ignoreCase := true }
  | 'm' => some { Flags.none with multiline := true }
  | 's' => some { Flags.none with dotAll := true }
  | 'x' => some { Flags.none with verbose := true }
  | 'a' => some { Flags.none with ascii := true }
  | 'u' => some { Flags.none with unicode := true }
  | 't' => some { Flags.none with plain := true }
  | _ => none

/-- Flags up to one of the given characters, which is returned with them. -/
def readFlagRun (stops : List Char) : Nat → Char → Flags → Reader (Flags × Char)
  | 0, _, _ => fail
  | fuel + 1, c, soFar => do
    match flag? c with
    | none => fail
    | some f =>
      let flags := soFar.or f
      if flags.ascii && flags.unicode then fail
      let d ← nextChar
      if stops.contains d then return (flags, d) else readFlagRun stops fuel d flags

def Flags.overlaps (a b : Flags) : Bool :=
  (a.ignoreCase && b.ignoreCase) || (a.multiline && b.multiline) || (a.dotAll && b.dotAll) ||
    (a.verbose && b.verbose)

/-- What stands at the start of a group with flags. -/
inductive FlagGroup where
  | whole (flags : Flags)
  | scoped (add del : Flags)

def readFlags (c : Char) : Reader FlagGroup := do
  let fuel := (← get).rest.length + 1
  let (add, stop) ← if c = '-' then pure (Flags.none, '-')
    else readFlagRun [')', '-', ':'] fuel c Flags.none
  if stop = ')' then return .whole add
  if add.plain then fail
  if stop = ':' then return .scoped add Flags.none
  let d ← nextChar
  let (del, _) ← readFlagRun [':'] fuel d Flags.none
  if del.ascii || del.unicode || del.plain || add.overlaps del then fail
  return .scoped add del

def openGroup (name : Option String) : Reader Nat := do
  let s ← get
  let index := s.widths.length + 1
  let names ← match name with
    | none => pure s.names
    | some n => if s.names.hasKey n then fail else pure (s.names.insert n index)
  set { s with widths := s.widths ++ [none], names := names }
  return index

def closeGroup (index : Nat) (node : Node) : Reader Unit :=
  modify fun s => { s with widths := s.widths.set (index - 1) (some node.width) }

/-- The number of the group a conditional asks about. -/
def readCondition : Reader Nat := do
  let name ← readNameUntil ')'
  if Text.isIdentifier name then
    match (← get).names.find? name with
    | some index => return index
    | none => fail
  else
    match Number.readInt? name with
    | some n =>
      if n ≤ 0 ∨ n ≥ 1073741823 then fail
      modify fun s => { s with conditions := s.conditions ++ [n.toNat] }
      return n.toNat
    | none => fail

def isLayout (c : Char) : Bool :=
  c = ' ' || (9 ≤ c.toNat && c.toNat ≤ 13)

/-- A comment ends with its line or with the text. -/
def skipLine : Reader Unit := do
  let line := (← get).rest.takeWhile (· ≠ .plain '\n')
  if line.contains .cut then fail
  skip (line.length + 1)

mutual

/-- Alternatives up to a closing parenthesis or the end. Only the first one of a whole pattern may
begin with flags for all of it. -/
def readChoice (flags : Flags) (nested : Bool) : Nat → Reader Node
  | 0 => fail
  | fuel + 1 => do
    let first ← readSequence flags (!nested) fuel []
    let globals := (← get).globals
    let others ← readOthers (if nested then flags else flags.or globals) fuel
    match others with
    | [] => return .sequence first
    | _ => return .choice (.sequence first :: others)

def readOthers (flags : Flags) : Nat → Reader (List Node)
  | 0 => fail
  | fuel + 1 => do
    if ← accept '|' then
      let nodes ← readSequence flags false fuel []
      return .sequence nodes :: (← readOthers flags fuel)
    else return []

def readSequence (flags : Flags) (atStart : Bool) : Nat → (soFar : List Node) → Reader (List Node)
  | 0, _ => fail
  | fuel + 1, soFar => do
    match ← peek? with
    | none => return soFar
    | some .cut => fail
    | some (.escaped c) =>
      skip 1
      let node ← readEscape flags c
      readSequence flags atStart fuel (soFar ++ [node])
    | some (.plain c) =>
      if c = '|' || c = ')' then return soFar
      skip 1
      if flags.verbose && isLayout c then
        return ← readSequence flags atStart fuel soFar
      if flags.verbose && c = '#' then
        skipLine
        return ← readSequence flags atStart fuel soFar
      if isQuantifier c then
        match ← readQuantifier c with
        | none => readSequence flags atStart fuel (soFar ++ [literal flags c.toNat])
        | some count => readSequence flags atStart fuel (← repeatLast flags soFar count)
      else if c = '(' then
        if ← accept '?' then
          let c ← nextChar
          match ← readExtension flags (atStart && soFar.isEmpty) fuel c with
          | .inl globals => readSequence (flags.or globals) atStart fuel soFar
          | .inr nodes => readSequence flags atStart fuel (soFar ++ nodes)
        else readSequence flags atStart fuel (soFar ++ [← readCapture flags none fuel])
      else
        let node ← readAtom flags c
        readSequence flags atStart fuel (soFar ++ [node])

def readAtom (flags : Flags) (c : Char) : Reader Node :=
  if c = '[' then readSet flags
  else if c = '.' then return .any flags.dotAll
  else if c = '^' then return .anchor (if flags.multiline then .lineStart else .textStart)
  else if c = '$' then return .anchor (if flags.multiline then .lineEnd else .lastLineEnd)
  else return literal flags c.toNat

def readCapture (flags : Flags) (name : Option String) : Nat → Reader Node
  | 0 => fail
  | fuel + 1 => do
    let index ← openGroup name
    let node ← readChoice flags true fuel
    expect ')'
    closeGroup index node
    return .group (some index) node

/-- What follows an opening parenthesis and a question mark: flags for the whole pattern, or the
nodes of a group. -/
def readExtension (flags : Flags) (atStart : Bool) : Nat → Char → Reader (Flags ⊕ List Node)
  | 0, _ => fail
  | fuel + 1, c => do
    if c = 'P' then
      let d ← nextChar
      if d = '<' then
        let name ← readGroupName '>'
        return .inr [← readCapture flags (some name) fuel]
      if d = '=' then
        let name ← readGroupName ')'
        match (← get).names.find? name with
        | some index => return .inr [← readReference flags index]
        | none => fail
      fail
    if c = '#' then
      let _ ← readUntil ')'
      return .inr []
    if c = '=' || c = '!' then
      let node ← readChoice flags true fuel
      expect ')'
      return .inr [.lookAhead (c = '=') node]
    if c = '<' then
      let d ← nextChar
      if d ≠ '=' && d ≠ '!' then fail
      let outer := (← get).behind
      modify fun s => { s with behind := outer <|> some s.widths.length }
      let node ← readChoice flags true fuel
      modify fun s => { s with behind := outer }
      expect ')'
      let w := node.width
      if w.most ≠ some w.least || w.least > countLimit then refuse
      return .inr [.lookBehind (d = '=') w.least node]
    if c = '(' then
      let index ← readCondition
      checkBehind index
      modify fun s => { s with usesGroups := true }
      let yes ← readSequence flags false fuel []
      let no ← if ← accept '|' then readSequence flags false fuel [] else pure []
      expect ')'
      return .inr [.conditional index (.sequence yes) (.sequence no)]
    if c = ':' || c = '>' then
      let node ← readChoice flags true fuel
      expect ')'
      return .inr [if c = '>' then .atomic node else .group none node]
    match ← readFlags c with
    | .whole globals =>
      if !atStart then fail
      modify fun s => { s with globals := s.globals.or globals }
      return .inl globals
    | .scoped add del =>
      let node ← readChoice (flags.scoped add del) true fuel
      expect ')'
      return .inr [.group none node]

end

def readWhole (fuel : Nat) : Reader Node := do
  let node ← readChoice Flags.none false fuel
  let s ← get
  if s.globals.ascii && s.globals.unicode then throw .conflictingFlags
  if !s.rest.isEmpty then fail
  if s.conditions.any (· > s.widths.length) || s.refused then fail
  return node

end ServiceBlueprint.Pattern

namespace ServiceBlueprint

def Pattern.read (text : String) : Except PatternError Pattern := do
  let tokens := Pattern.Token.ofText text.toList
  let start : Pattern.ReaderState :=
    ⟨tokens, [], [], none, Pattern.Flags.none, [], false, false⟩
  let (root, s) ← (Pattern.readWhole (4 * tokens.length + 8)).run start
  return ⟨root, s.widths.length, s.usesGroups⟩

end ServiceBlueprint
