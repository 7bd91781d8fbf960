import ServiceBlueprint.Number.Places
import ServiceBlueprint.Value.Access

/-!
# Templates

A template is text with conversions, each of which is replaced by the text of an argument. A
conversion starts with a percent sign and ends with a letter for the form; between them stand the
key of an argument, flags, the least width and the precision. Two percent signs stand for one. The
arguments are a list, which has to be used up, or a map, from which conversions choose by key.
-/

namespace ServiceBlueprint.Template

inductive Size where
  | unset
  | fixed (n : Nat)
  /-- The next argument is the size. -/
  | argument
  deriving DecidableEq, Repr

structure Flags where
  left : Bool := false
  sign : Bool := false
  blank : Bool := false
  alternate : Bool := false
  zero : Bool := false
  deriving DecidableEq, Repr

structure Conversion where
  key : Option String
  flags : Flags
  width : Size
  precision : Size
  form : Char
  deriving DecidableEq, Repr

inductive Piece where
  | char (c : Char)
  | conversion (c : Conversion)
  deriving DecidableEq, Repr

/-! ### Reading -/

/-- The characters up to the parenthesis that closes the first one, and the rest behind it. -/
def takeKey : (depth : Nat) → List Char → Option (List Char × List Char)
  | _, [] => none
  | depth, c :: cs =>
    if c = ')' then
      match depth with
      | 0 => some ([], cs)
      | depth + 1 => (takeKey depth cs).map fun (k, rest) => (c :: k, rest)
    else
      (takeKey (if c = '(' then depth + 1 else depth) cs).map fun (k, rest) => (c :: k, rest)

def readKey : List Char → Option (Option String × List Char)
  | '(' :: cs => (takeKey 0 cs).map fun (k, rest) => (some (String.ofList k), rest)
  | cs => some (none, cs)

def readFlags : Flags → List Char → Flags × List Char
  | f, '-' :: cs => readFlags { f with left := true } cs
  | f, '+' :: cs => readFlags { f with sign := true } cs
  | f, ' ' :: cs => readFlags { f with blank := true } cs
  | f, '#' :: cs => readFlags { f with alternate := true } cs
  | f, '0' :: cs => readFlags { f with zero := true } cs
  | f, cs => (f, cs)

/-- Larger sizes are refused. -/
def maxSize : Nat := Nat.pow 10 8

def readSize : List Char → Option (Size × List Char)
  | '*' :: cs => some (.argument, cs)
  | cs =>
    let ds := cs.takeWhile Char.isDigit
    let n := Number.digitsToNat ds
    if ds.isEmpty then some (.unset, cs)
    else if n > maxSize then none
    else some (.fixed n, cs.drop ds.length)

/-- A point alone means no digits at all. -/
def readPrecision : List Char → Option (Size × List Char)
  | '.' :: cs => (readSize cs).map fun (s, rest) => (if s = .unset then .fixed 0 else s, rest)
  | cs => some (.unset, cs)

/-- A letter for the length of a number says nothing. -/
def dropLength : List Char → List Char
  | 'h' :: cs => cs
  | 'l' :: cs => cs
  | 'L' :: cs => cs
  | cs => cs

def readConversion (cs : List Char) : Option (Conversion × List Char) := do
  let (key, cs) ← readKey cs
  let (flags, cs) := readFlags {} cs
  let (width, cs) ← readSize cs
  let (precision, cs) ← readPrecision cs
  match dropLength cs with
  | form :: rest => return (⟨key, flags, width, precision, form⟩, rest)
  | [] => failure

def readPieces : Nat → List Char → Option (List Piece)
  | _, [] => some []
  | 0, _ => none
  | fuel + 1, '%' :: '%' :: cs => (readPieces fuel cs).map (.char '%' :: ·)
  | fuel + 1, c :: cs =>
    if c = '%' then do
      let (conversion, rest) ← readConversion cs
      return .conversion conversion :: (← readPieces fuel rest)
    else (readPieces fuel cs).map (.char c :: ·)

def read (template : String) : Option (List Piece) :=
  readPieces (template.toList.length + 1) template.toList

/-! ### The text of an argument -/

/-- What is not ASCII is written by code point. -/
def asciiChar (c : Char) : List Char :=
  let n := c.toNat
  if n < 128 then [c]
  else if n < 0x100 then '\\' :: 'x' :: Text.hexDigits 2 n
  else if n < 0x10000 then '\\' :: 'u' :: Text.hexDigits 4 n
  else '\\' :: 'U' :: Text.hexDigits 8 n

def asciiLiteral (v : Value) : List Char :=
  v.literal.toList.flatMap asciiChar

/-- A number of any kind as an integer; the part behind the point is dropped. -/
def wholeOf (v : Value) : Option Int :=
  match v.quantity? with
  | some (.whole n) => some n
  | some (.real x) => x.truncate?
  | none => none

/-- An integer or truth value. -/
def exactWholeOf (v : Value) : Option Int :=
  match v.quantity? with
  | some (.whole n) => some n
  | _ => none

/-- Digits, at least as many as the precision says. -/
def digitsOf (base : Nat) (precision : Option Nat) (n : Int) : List Char :=
  Binary64.padLeft '0' (precision.getD 0) (Nat.toDigits base n.natAbs)

/-- A number as its sign, the mark of its base and the rest. -/
structure Parts where
  negative : Bool
  mark : List Char
  body : List Char

def markOf (alternate : Bool) (form : Char) : List Char :=
  if alternate then ['0', form] else []

def wholeParts (f : Flags) (precision : Option Nat) (form : Char) (v : Value) : Option Parts :=
  if form = 'x' then
    (exactWholeOf v).map fun n => ⟨n < 0, markOf f.alternate form, digitsOf 16 precision n⟩
  else if form = 'X' then
    (exactWholeOf v).map fun n =>
      ⟨n < 0, markOf f.alternate form, (digitsOf 16 precision n).map Char.toUpper⟩
  else if form = 'o' then
    (exactWholeOf v).map fun n => ⟨n < 0, markOf f.alternate form, digitsOf 8 precision n⟩
  else (wholeOf v).map fun n => ⟨n < 0, [], digitsOf 10 precision n⟩

def fractionText (f : Flags) (places : Nat) (form : Char) (num den : Nat) : List Char :=
  if form = 'f' then Number.fixedPlaces f.alternate places num den
  else if form = 'e' then Number.scientific f.alternate places num den
  else Number.general f.alternate places num den

def realText (f : Flags) (places : Nat) (form : Char) : Binary64 → List Char
  | .indeterminate => "nan".toList
  | .infinite _ => "inf".toList
  | .finite _ m e =>
    if 0 ≤ e then fractionText f places form (m * Nat.pow 2 e.toNat) 1
    else fractionText f places form m (Nat.pow 2 (-e).toNat)

def realParts (f : Flags) (precision : Option Nat) (form : Char) (v : Value) : Option Parts :=
  match v.quantity?, v.toFloat with
  | some _, .ok x =>
    let text := realText f (precision.getD 6) form.toLower x
    some ⟨x.isNegative, [], if form.isUpper then text.map Char.toUpper else text⟩
  | _, _ => none

def charOf : Value → Option (List Char)
  | .text s => if s.toList.length = 1 then some s.toList else none
  | v =>
    (exactWholeOf v).bind fun n =>
      if n < 0 ∨ !n.toNat.isValidChar then none else some [Char.ofNat n.toNat]

/-! ### Layout -/

def fillTo (c : Char) (width used : Nat) : List Char :=
  List.replicate (width - used) c

def padText (f : Flags) (width : Nat) (cs : List Char) : List Char :=
  if f.left then cs ++ fillTo ' ' width cs.length else fillTo ' ' width cs.length ++ cs

def signOf (f : Flags) (negative : Bool) : List Char :=
  if negative then ['-'] else if f.sign then ['+'] else if f.blank then [' '] else []

/-- Zeros are put behind the sign and the mark, blanks in front of them or at the end. -/
def padNumber (f : Flags) (width : Nat) (p : Parts) : List Char :=
  let front := signOf f p.negative ++ p.mark
  let used := front.length + p.body.length
  if f.left then front ++ p.body ++ fillTo ' ' width used
  else if f.zero then front ++ fillTo '0' width used ++ p.body
  else fillTo ' ' width used ++ front ++ p.body

def cutTo (precision : Option Nat) (cs : List Char) : List Char :=
  match precision with
  | some n => cs.take n
  | none => cs

/-- The text of a value in a form, unless the form does not fit the value. -/
def convert (f : Flags) (width : Nat) (precision : Option Nat) (form : Char) (v : Value) :
    Option (List Char) :=
  if form = 's' then some (padText f width (cutTo precision v.display.toList))
  else if form = 'r' then some (padText f width (cutTo precision v.literal.toList))
  else if form = 'a' then some (padText f width (cutTo precision (asciiLiteral v)))
  else if form = 'c' then (charOf v).map (padText f width)
  else if "diuoxX".toList.contains form then
    (wholeParts f precision form v).map (padNumber f width)
  else if "eEfFgG".toList.contains form then
    (realParts f precision form v).map (padNumber f width)
  else none

/-! ### Filling -/

inductive Arguments where
  | list (values : List Value)
  | map (entries : List (Value × Value))

/-- Arguments that are still to be used, the next one first. -/
abbrev Fill := StateT (List Value) Option

def nextArgument : Fill Value := do
  match ← get with
  | v :: rest =>
    set rest
    return v
  | [] => failure

/-- A size, and whether it was negative. -/
def sizeOf : Size → Fill (Option Int)
  | .unset => return none
  | .fixed n => return some n
  | .argument => do
    match exactWholeOf (← nextArgument) with
    | some n => if n.natAbs > maxSize then failure else return some n
    | none => failure

/-- Chooses the argument at a key as the only one. -/
def choose (arguments : Arguments) (key : String) : Fill Unit :=
  match arguments with
  | .list _ => failure
  | .map es =>
    match Table.find? es (.text key) with
    | some v => set [v]
    | none => failure

/-- A negative width is a width with blanks at the end, and a negative precision is zero. -/
def fillConversion (arguments : Arguments) (c : Conversion) : Fill (List Char) := do
  match c.key with
  | some key => choose arguments key
  | none => pure ()
  let width ← sizeOf c.width
  let precision ← sizeOf c.precision
  let flags := if width.any (· < 0) then { c.flags with left := true } else c.flags
  let v ← nextArgument
  match convert flags ((width.getD 0).natAbs) (precision.map Int.toNat) c.form v with
  | some cs => return cs
  | none => failure

def fillPieces (arguments : Arguments) : List Piece → Fill (List Char)
  | [] => return []
  | .char c :: ps => return c :: (← fillPieces arguments ps)
  | .conversion c :: ps => do
    let cs ← fillConversion arguments c
    return cs ++ (← fillPieces arguments ps)

def Arguments.initial : Arguments → List Value
  | .list vs => vs
  | .map es => [.map es]

/-- The template with its conversions replaced, if it is well formed and fits the arguments. -/
def fill (template : String) (arguments : Arguments) : Option String := do
  let pieces ← read template
  let (cs, unused) ← (fillPieces arguments pieces).run arguments.initial
  match arguments with
  | .list _ => if unused.isEmpty then return String.ofList cs else failure
  | .map _ => return String.ofList cs

end ServiceBlueprint.Template
