import ServiceBlueprint.Markup.Cursor
import ServiceBlueprint.Markup.Token

/-!
# Reading tokens

Tokens are read one after another. A token that may turn out to be the key of an entry is
remembered until the colon that follows it, or the end of its line, decides; the tokens that make
it a key are then entered in front of it. `Token.ofText` gives the tokens that can be relied on
before a failure, and the failure.
-/

namespace ServiceBlueprint.Markup

/-- A token that may be a key, and must be one if it stands at the indentation of its block. -/
structure PendingKey where
  number : Nat
  required : Bool
  index : Nat
  line : Nat
  column : Nat

structure Lexer where
  cursor : Cursor
  flowLevel : Nat
  indent : Int
  outerIndents : List Int
  allowsKey : Bool
  /-- Pending keys by level of flow. -/
  pending : List (Nat × PendingKey)
  tokens : List Token

abbrev Lex := StateT Lexer (Except Failure)

def refuse {α : Type} : Lex α := throw .malformed

def cursor : Lex Cursor := do
  return (← get).cursor

def peekAt (k : Nat) : Lex (Option Char) := do
  return (← cursor).rest[k]?

def peek : Lex (Option Char) := peekAt 0

def advance (n : Nat) : Lex Unit :=
  modify fun s => { s with cursor := s.cursor.advance n }

def takeWhile (p : Char → Bool) : Lex (List Char) := do
  let taken := (← cursor).rest.takeWhile p
  advance taken.length
  return taken

def skipWhile (p : Char → Bool) : Lex Unit := do
  let _ ← takeWhile p

def isBlank (c : Char) : Bool := c = ' '

def isBlankOrTab (c : Char) : Bool := c = ' ' || c = '\t'

def inLine (c : Char) : Bool := !isBreak c

def fuelForRest : Lex Nat := do
  return (← cursor).rest.length + 1

def emit (t : Token) : Lex Unit :=
  modify fun s => { s with tokens := s.tokens ++ [t] }

def allowKey (allowed : Bool) : Lex Unit :=
  modify fun s => { s with allowsKey := allowed }

def inFlow : Lex Bool := do
  return (← get).flowLevel ≠ 0

/-- The break at the cursor, if there is one; the usual breaks all count as a line feed. -/
def lineBreak : Lex (List Char) := do
  match (← cursor).rest with
  | '\r' :: '\n' :: _ =>
    advance 2
    return ['\n']
  | c :: _ =>
    if c = '\r' || c = '\n' || c = '\u0085' then
      advance 1
      return ['\n']
    if c = '\u2028' || c = '\u2029' then
      advance 1
      return [c]
    return []
  | [] => return []

/-! ### Pending keys -/

def maxKeyLength : Nat := 1024

def PendingKey.isStale (k : PendingKey) (c : Cursor) : Bool :=
  k.line ≠ c.line || c.index - k.index > maxKeyLength

/-- Forgets keys that can no longer be keys. -/
def dropStaleKeys : Lex Unit := do
  let c ← cursor
  let s ← get
  if s.pending.any fun e => e.2.isStale c && e.2.required then refuse
  set { s with pending := s.pending.filter fun e => !e.2.isStale c }

def pendingKey? : Lex (Option PendingKey) := do
  let s ← get
  return (s.pending.find? (·.1 = s.flowLevel)).map (·.2)

def forgetKey : Lex Unit :=
  modify fun s => { s with pending := s.pending.filter (·.1 ≠ s.flowLevel) }

def dropKey : Lex Unit := do
  match ← pendingKey? with
  | some k => if k.required then refuse else forgetKey
  | none => return

/-- Remembers the next token as a possible key. -/
def rememberKey : Lex Unit := do
  let s ← get
  if s.allowsKey then
    dropKey
    let c := s.cursor
    let k : PendingKey :=
      { number := s.tokens.length
        required := s.flowLevel = 0 && s.indent = c.column
        index := c.index
        line := c.line
        column := c.column }
    modify fun s => { s with pending := s.pending ++ [(s.flowLevel, k)] }

/-! ### Indentation -/

/-- Closes the blocks that are indented deeper than the column. -/
def unwind (column : Int) : Nat → Lexer → Lexer
  | 0, s => s
  | fuel + 1, s =>
    if s.indent > column then
      unwind column fuel
        { s with
          indent := s.outerIndents.head?.getD (-1)
          outerIndents := s.outerIndents.tail
          tokens := s.tokens ++ [.blockEnd] }
    else s

def unwindTo (column : Int) : Lex Unit :=
  modify fun s => if s.flowLevel = 0 then unwind column (s.outerIndents.length + 1) s else s

/-- Opens a block at a column that is deeper than the present one. -/
def indentTo (column : Int) : Lex Bool := do
  let s ← get
  if s.indent < column then
    set { s with indent := column, outerIndents := s.indent :: s.outerIndents }
    return true
  else return false

def column : Lex Int := do
  return (← cursor).column

/-! ### Scalars -/

/-- How many characters of a plain scalar come next. -/
def plainLength (flow : Bool) : List Char → Nat
  | [] => 0
  | c :: rest =>
    if isGap (some c) ||
      (c = ':' && (isGap rest.head? || (flow && rest.head?.any ",[]\x7b\x7d".toList.contains))) ||
      (flow && ",?[]\x7b\x7d".toList.contains c) then 0
    else plainLength flow rest + 1

/-- Further breaks behind one in a plain scalar, unless a separator comes first. -/
def plainBreaks : Nat → List Char → Lex (Option (List Char))
  | 0, _ => refuse
  | fuel + 1, soFar => do
    match ← peek with
    | none => return some soFar
    | some c =>
      if c = ' ' then
        advance 1
        plainBreaks fuel soFar
      else if isBreak c then
        let b ← lineBreak
        if (← cursor).atSeparator then return none
        plainBreaks fuel (soFar ++ b)
      else return some soFar

/-- A single break is a blank; of several the first one is dropped. -/
def foldBreaks (first others : List Char) : List Char :=
  if first ≠ ['\n'] then first ++ others
  else if others.isEmpty then [' ']
  else others

/-- What joins the words of a plain scalar. -/
def plainSpaces : Lex (List Char) := do
  let blanks ← takeWhile isBlank
  if !(← peek).any isBreak then return blanks
  let first ← lineBreak
  allowKey true
  if (← cursor).atSeparator then return []
  match ← plainBreaks (← fuelForRest) [] with
  | none => return []
  | some others => return foldBreaks first others

def plainWords (indent : Int) : Nat → (spaces soFar : List Char) → Lex (List Char)
  | 0, _, _ => refuse
  | fuel + 1, spaces, soFar => do
    if (← peek) = some '#' then return soFar
    let flow ← inFlow
    let c ← cursor
    let n := plainLength flow c.rest
    if n = 0 then return soFar
    allowKey false
    let soFar := soFar ++ spaces ++ c.rest.take n
    advance n
    let spaces ← plainSpaces
    let here ← column
    if spaces.isEmpty || (← peek) = some '#' || (!flow && here < indent) then return soFar
    plainWords indent fuel spaces soFar

def plainScalar : Lex Token := do
  let text ← plainWords ((← get).indent + 1) (← fuelForRest) [] []
  return .scalar (String.ofList text) true

def namedEscape? : Char → Option Char
  | '0' => some '\x00'
  | 'a' => some '\x07'
  | 'b' => some '\x08'
  | 't' => some '\t'
  | '\t' => some '\t'
  | 'n' => some '\n'
  | 'v' => some '\x0b'
  | 'f' => some '\x0c'
  | 'r' => some '\r'
  | 'e' => some '\x1b'
  | ' ' => some ' '
  | '"' => some '"'
  | '\\' => some '\\'
  | '/' => some '/'
  | 'N' => some '\u0085'
  | '_' => some '\u00a0'
  | 'L' => some '\u2028'
  | 'P' => some '\u2029'
  | _ => none

def numberedEscape? : Char → Option Nat
  | 'x' => some 2
  | 'u' => some 4
  | 'U' => some 8
  | _ => none

def hexValue? (c : Char) : Option Nat :=
  if c.isDigit then some (c.toNat - 48)
  else if 'a' ≤ c ∧ c ≤ 'f' then some (c.toNat - 87)
  else if 'A' ≤ c ∧ c ≤ 'F' then some (c.toNat - 55)
  else none

/-- The number of exactly `count` hexadecimal digits. -/
def hexNumber (count : Nat) : Lex Nat := do
  let ds := (← cursor).rest.take count
  match ds.mapM hexValue? with
  | some ns =>
    if ns.length = count then
      advance count
      return ns.foldl (fun n d => 16 * n + d) 0
    else refuse
  | none => refuse

def isHighHalf (code : Nat) : Bool := 0xd800 ≤ code && code < 0xdc00

def isLowHalf (code : Nat) : Bool := 0xdc00 ≤ code && code < 0xe000

/-- The second half of a surrogate pair, if its escape comes next. -/
def lowHalf? : List Char → Option Nat
  | '\\' :: 'u' :: rest => do
    let ns ← (rest.take 4).mapM hexValue?
    let code := ns.foldl (fun n d => 16 * n + d) 0
    if ns.length = 4 && isLowHalf code then return code else failure
  | _ => none

/-- The character of a code point. Texts hold no surrogates, so that the halves of a pair are one
character instead of two, and half of one alone becomes the replacement character. Codes beyond the
last one have no character. -/
def charOf (code : Nat) : Lex Char := do
  if isHighHalf code then
    match lowHalf? (← cursor).rest with
    | some low =>
      advance 6
      return Char.ofNat (0x10000 + (code - 0xd800) * 0x400 + (low - 0xdc00))
    | none => return '\ufffd'
  if code ≤ 0x10ffff then return if code.isValidChar then Char.ofNat code else '\ufffd'
  else if code < Nat.pow 2 31 then throw (.faulty .invalidValue)
  else throw (.faulty .outOfRange)

/-- Breaks behind one in a quoted scalar, which no separator may follow. -/
def quotedBreaks : Nat → List Char → Lex (List Char)
  | 0, _ => refuse
  | fuel + 1, soFar => do
    if (← cursor).atSeparator then refuse
    skipWhile isBlankOrTab
    if (← peek).any isBreak then quotedBreaks fuel (soFar ++ (← lineBreak))
    else return soFar

def quotedSpaces : Lex (List Char) := do
  let blanks ← takeWhile isBlankOrTab
  match ← peek with
  | none => refuse
  | some c =>
    if isBreak c then
      let first ← lineBreak
      return foldBreaks first (← quotedBreaks (← fuelForRest) [])
    else return blanks

/-- The character or the folded break that a backslash stands for. -/
def escaped : Lex (List Char) := do
  match ← peek with
  | none => refuse
  | some c =>
    if let some e := namedEscape? c then
      advance 1
      return [e]
    if let some count := numberedEscape? c then
      advance 1
      return [← charOf (← hexNumber count)]
    if isBreak c then
      let _ ← lineBreak
      return ← quotedBreaks (← fuelForRest) []
    refuse

def isQuotedWord (c : Char) : Bool :=
  c ≠ '\'' && c ≠ '"' && c ≠ '\\' && !isGap (some c)

/-- The text up to the closing quote. Two single quotes stand for one, and only between double
quotes does a backslash escape. -/
def quotedText (double : Bool) : Nat → List Char → Lex (List Char)
  | 0, _ => refuse
  | fuel + 1, soFar => do
    let soFar := soFar ++ (← takeWhile isQuotedWord)
    match (← cursor).rest with
    | [] => refuse
    | c :: after =>
      if !double && c = '\'' && after.head? = some '\'' then
        advance 2
        quotedText double fuel (soFar ++ ['\''])
      else if c = (if double then '"' else '\'') then
        advance 1
        return soFar
      else if double && c = '\\' then
        advance 1
        let cs ← escaped
        quotedText double fuel (soFar ++ cs)
      else if isGap (some c) then
        let cs ← quotedSpaces
        quotedText double fuel (soFar ++ cs)
      else
        advance 1
        quotedText double fuel (soFar ++ [c])

def quotedScalar (double : Bool) : Lex Token := do
  advance 1
  let text ← quotedText double (← fuelForRest) []
  return .scalar (String.ofList text) false

/-- What happens to the breaks at the end of a block scalar. -/
inductive Chomping where
  | clip
  | strip
  | keep
  deriving DecidableEq, Repr

def chomping? : Option Char → Option Chomping
  | some '+' => some .keep
  | some '-' => some .strip
  | _ => none

def acceptChomping : Lex (Option Chomping) := do
  let found := chomping? (← peek)
  if found.isSome then advance 1
  return found

/-- The indentation that a header gives, which is not zero. -/
def acceptIncrement : Lex (Option Nat) := do
  match ← peek with
  | some c =>
    if c.isDigit then
      if c = '0' then refuse
      advance 1
      return some (c.toNat - 48)
    else return none
  | none => return none

/-- Indicators of a block scalar, in either order. -/
def blockHeader : Lex (Chomping × Option Nat) := do
  let first ← acceptChomping
  let increment ← acceptIncrement
  let second ← if first.isNone && increment.isSome then acceptChomping else pure none
  if !endsWord (← peek) then refuse
  return ((first <|> second).getD .clip, increment)

/-- The rest of a line that may hold a comment only. -/
def ignoredLine : Lex Unit := do
  skipWhile isBlank
  if (← peek) = some '#' then skipWhile inLine
  if !endsLine (← peek) then refuse
  let _ ← lineBreak

/-- Leading breaks of a block scalar, and the deepest column met on the way. -/
def blockIndentation : Nat → List Char → Nat → Lex (List Char × Nat)
  | 0, _, _ => refuse
  | fuel + 1, soFar, deepest => do
    match ← peek with
    | none => return (soFar, deepest)
    | some c =>
      if c = ' ' then
        advance 1
        blockIndentation fuel soFar (max deepest (← cursor).column)
      else if isBreak c then blockIndentation fuel (soFar ++ (← lineBreak)) deepest
      else return (soFar, deepest)

def skipIndent (indent : Nat) : Lex Unit := do
  let c ← cursor
  advance ((c.rest.take (indent - c.column)).takeWhile isBlank).length

def blockBreaks (indent : Nat) : Nat → List Char → Lex (List Char)
  | 0, _ => refuse
  | fuel + 1, soFar => do
    skipIndent indent
    if (← peek).any isBreak then blockBreaks indent fuel (soFar ++ (← lineBreak))
    else return soFar

/-- The lines of a block scalar, with the break behind the last line and the breaks after it. -/
def blockLines (folded : Bool) (indent : Nat) :
    Nat → (breaks soFar : List Char) → Lex (List Char × List Char × List Char)
  | 0, _, _ => refuse
  | fuel + 1, breaks, soFar => do
    let tight := !(← peek).any isBlankOrTab
    let soFar := soFar ++ breaks ++ (← takeWhile inLine)
    let last ← lineBreak
    let breaks ← blockBreaks indent (← fuelForRest) []
    let c ← cursor
    if c.column = indent && !c.rest.isEmpty then
      let joint :=
        if folded && last = ['\n'] && tight && !c.rest.head?.any isBlankOrTab then
          if breaks.isEmpty then [' '] else []
        else last
      blockLines folded indent fuel breaks (soFar ++ joint)
    else return (soFar, last, breaks)

def blockScalar (folded : Bool) : Lex Token := do
  let least := max 1 ((← get).indent + 1).toNat
  advance 1
  let (chomping, increment) ← blockHeader
  ignoredLine
  let (breaks, indent) ← match increment with
    | none => do
      let (breaks, deepest) ← blockIndentation (← fuelForRest) [] 0
      pure (breaks, max least deepest)
    | some n => do
      let indent := least + n - 1
      let breaks ← blockBreaks indent (← fuelForRest) []
      pure (breaks, indent)
  let c ← cursor
  let (text, last, breaks) ←
    if c.column = indent && !c.rest.isEmpty then
      blockLines folded indent (← fuelForRest) breaks []
    else pure ([], [], breaks)
  let tail := match chomping with
    | .strip => []
    | .clip => last
    | .keep => last ++ breaks
  return .scalar (String.ofList (text ++ tail)) false

/-! ### Names, tags and directives -/

def isNameChar (c : Char) : Bool :=
  c.isAlphanum || c = '-' || c = '_'

def name : Lex String := do
  let cs ← takeWhile isNameChar
  if cs.isEmpty then refuse
  return String.ofList cs

/-- The name of an anchor or alias, behind its indicator. -/
def anchorName : Lex String := do
  advance 1
  let s ← name
  let next ← peek
  if isGap next || next.any "?:,]\x7d%@\x60".toList.contains then return s else refuse

def isUriChar (c : Char) : Bool :=
  c.isAlphanum || "-;/?:@&=+$,_.!~*'()[]%".toList.contains c

/-- The octets of a run of escapes in a URI. -/
def uriOctets : Nat → List UInt8 → Lex (List UInt8)
  | 0, _ => refuse
  | fuel + 1, soFar => do
    if (← peek) = some '%' then
      advance 1
      let n ← hexNumber 2
      uriOctets fuel (soFar ++ [n.toUInt8])
    else return soFar

def uriChars : Nat → List Char → Lex (List Char)
  | 0, _ => refuse
  | fuel + 1, soFar => do
    let soFar := soFar ++ (← takeWhile fun c => isUriChar c && c ≠ '%')
    if (← peek) = some '%' then
      let octets ← uriOctets (← fuelForRest) []
      match String.fromUTF8? ⟨octets.toArray⟩ with
      | some s => uriChars fuel (soFar ++ s.toList)
      | none => refuse
    else return soFar

def uri : Lex String := do
  let start := (← cursor).index
  let cs ← uriChars (← fuelForRest) []
  if (← cursor).index = start then refuse
  return String.ofList cs

/-- A handle is an exclamation mark, or a name between two of them. -/
def tagHandle : Lex String := do
  if (← peek) ≠ some '!' then refuse
  advance 1
  if (← peek) = some ' ' then return "!"
  let cs ← takeWhile isNameChar
  if (← peek) ≠ some '!' then refuse
  advance 1
  return String.ofList ('!' :: (cs ++ ['!']))

/-- Whether a second exclamation mark comes before the end of the word. -/
def hasHandle (rest : List Char) : Bool :=
  (rest.takeWhile fun c => !endsWord (some c)).contains '!'

def tagToken : Lex Token := do
  let next ← peekAt 1
  let t ←
    if next = some '<' then do
      advance 2
      let s ← uri
      if (← peek) ≠ some '>' then refuse
      advance 1
      pure (Token.tag none s)
    else if isGap next then do
      advance 1
      pure (Token.tag none "!")
    else if hasHandle ((← cursor).rest.drop 1) then do
      let handle ← tagHandle
      pure (Token.tag (some handle) (← uri))
    else do
      advance 1
      pure (Token.tag (some "!") (← uri))
  if endsWord (← peek) then return t else refuse

def directiveNumber : Lex Nat := do
  let ds ← takeWhile Char.isDigit
  if ds.isEmpty then refuse
  return ds.foldl (fun n c => 10 * n + (c.toNat - 48)) 0

def versionDirective : Lex Directive := do
  skipWhile isBlank
  let major ← directiveNumber
  if (← peek) ≠ some '.' then refuse
  advance 1
  let _ ← directiveNumber
  if endsWord (← peek) then return .version major else refuse

def handleDirective : Lex Directive := do
  skipWhile isBlank
  let handle ← tagHandle
  if (← peek) ≠ some ' ' then refuse
  skipWhile isBlank
  let meaning ← uri
  if endsWord (← peek) then return .handle handle meaning else refuse

def directiveToken : Lex Token := do
  advance 1
  let s ← name
  if !endsWord (← peek) then refuse
  let d ←
    if s = "YAML" then versionDirective
    else if s = "TAG" then handleDirective
    else do
      skipWhile inLine
      pure Directive.other
  ignoredLine
  return .directive d

/-! ### Tokens -/

def insertToken (n : Nat) (t : Token) : Lex Unit :=
  modify fun s => { s with tokens := s.tokens.take n ++ t :: s.tokens.drop n }

/-- Leaves all blocks, as at a directive or a separator. -/
def leaveBlocks : Lex Unit := do
  unwindTo (-1)
  dropKey
  allowKey false

def lexStreamEnd : Lex Unit := do
  leaveBlocks
  modify fun s => { s with pending := [] }
  emit .streamEnd

def lexSeparator (t : Token) : Lex Unit := do
  leaveBlocks
  advance 3
  emit t

def lexFlowStart (t : Token) : Lex Unit := do
  rememberKey
  modify fun s => { s with flowLevel := s.flowLevel + 1 }
  allowKey true
  advance 1
  emit t

def lexFlowEnd (t : Token) : Lex Unit := do
  dropKey
  modify fun s => { s with flowLevel := s.flowLevel - 1 }
  allowKey false
  advance 1
  emit t

def lexFlowEntry : Lex Unit := do
  allowKey true
  dropKey
  advance 1
  emit .flowEntry

/-- Opens a block collection at the cursor, where that is allowed. -/
def openBlock (start : Token) : Lex Unit := do
  if !(← get).allowsKey then refuse
  let opened ← indentTo (← column)
  if opened then emit start

def lexBlockEntry : Lex Unit := do
  if !(← inFlow) then openBlock .blockSequenceStart
  allowKey true
  dropKey
  advance 1
  emit .blockEntry

def lexKey : Lex Unit := do
  let flow ← inFlow
  if !flow then openBlock .blockMappingStart
  allowKey (!flow)
  dropKey
  advance 1
  emit .key

/-- A colon makes the pending token a key; without one it belongs to a key written out. -/
def lexValue : Lex Unit := do
  let flow ← inFlow
  match ← pendingKey? with
  | some k =>
    forgetKey
    insertToken k.number .key
    if !flow then
      let opened ← indentTo k.column
      if opened then insertToken k.number .blockMappingStart
    allowKey false
  | none =>
    if !flow then openBlock .blockMappingStart
    allowKey (!flow)
    dropKey
  advance 1
  emit .value

/-- A token that may be a key. -/
def lexNode (read : Lex Token) : Lex Unit := do
  rememberKey
  allowKey false
  emit (← read)

def lexBlockScalar (folded : Bool) : Lex Unit := do
  allowKey true
  dropKey
  emit (← blockScalar folded)

def skipToToken : Nat → Lex Unit
  | 0 => refuse
  | fuel + 1 => do
    skipWhile isBlank
    if (← peek) = some '#' then skipWhile inLine
    let b ← lineBreak
    if !b.isEmpty then
      if !(← inFlow) then allowKey true
      skipToToken fuel

/-- Whether a plain scalar may start here. -/
def startsPlain (flow : Bool) (c : Char) (next : Option Char) : Bool :=
  (!isGap (some c) && !"-?:,[]\x7b\x7d#&*!|>'\"%@\x60".toList.contains c) ||
    (!isGap next && (c = '-' || (!flow && (c = '?' || c = ':'))))

def lexToken : Lex Unit := do
  let c ← cursor
  if c.index = 0 && c.rest.head? = some '\ufeff' then advance 1
  skipToToken (← fuelForRest)
  dropStaleKeys
  unwindTo (← column)
  let here ← cursor
  let flow ← inFlow
  match here.rest with
  | [] => lexStreamEnd
  | c :: rest =>
    let next := rest.head?
    if c = '%' && here.column = 0 then
      leaveBlocks
      emit (← directiveToken)
    else if c = '-' && here.column = 0 && here.atSeparator then lexSeparator .documentStart
    else if c = '.' && here.column = 0 && here.atSeparator then lexSeparator .documentEnd
    else if c = '[' then lexFlowStart .flowSequenceStart
    else if c = '\x7b' then lexFlowStart .flowMappingStart
    else if c = ']' then lexFlowEnd .flowSequenceEnd
    else if c = '\x7d' then lexFlowEnd .flowMappingEnd
    else if c = ',' then lexFlowEntry
    else if c = '-' && isGap next then lexBlockEntry
    else if c = '?' && (flow || isGap next) then lexKey
    else if c = ':' && (flow || isGap next) then lexValue
    else if c = '*' then lexNode do return .alias (← anchorName)
    else if c = '&' then lexNode do return .anchor (← anchorName)
    else if c = '!' then lexNode tagToken
    else if c = '|' && !flow then lexBlockScalar false
    else if c = '>' && !flow then lexBlockScalar true
    else if c = '\'' then lexNode (quotedScalar false)
    else if c = '"' then lexNode (quotedScalar true)
    else if startsPlain flow c next then lexNode plainScalar
    else refuse

def Lexer.start (text : String) : Lexer :=
  ⟨Cursor.ofString text, 0, -1, [], true, [], []⟩

/-- The tokens in front of all pending keys. -/
def Lexer.settled (s : Lexer) : List Token :=
  let live := s.pending.filter fun e => !e.2.isStale s.cursor
  s.tokens.take (live.foldl (fun n e => min n e.2.number) s.tokens.length)

/-- The characters a text may hold. -/
def isAllowed (c : Char) : Bool :=
  let n := c.toNat
  n = 9 || n = 10 || n = 13 || (0x20 ≤ n && n ≤ 0x7e) || n = 0x85 || (0xa0 ≤ n && n ≤ 0xd7ff) ||
    (0xe000 ≤ n && n ≤ 0xfffd) || 0x10000 ≤ n

def lexAll : Nat → Lexer → List Token × Failure
  | 0, s => (s.settled, .malformed)
  | fuel + 1, s =>
    match lexToken.run s with
    | .error f => (s.settled, f)
    | .ok (_, s) =>
      if s.tokens.getLast? = some .streamEnd then (s.tokens, .malformed) else lexAll fuel s

/-- The tokens of a text, and the failure met by whoever needs a token beyond them. -/
def Token.ofText (text : String) : List Token × Failure :=
  if text.toList.all isAllowed then lexAll (text.length + 2) (Lexer.start text)
  else ([], .malformed)

end ServiceBlueprint.Markup
