import ServiceBlueprint.Number.Binary64
import ServiceBlueprint.Text.Blank
import ServiceBlueprint.Text.Digit

/-!
# Reading numbers from text

Numbers may use the decimal digits of any script, single underscores between digits, and blanks
around them. Integers have at most `maxDigits` digits.
-/

namespace ServiceBlueprint.Number

def maxDigits : Nat := 4300

/-- The blanks of ASCII alone. -/
def isPlainBlank (c : Char) : Bool :=
  c = ' ' || (9 ≤ c.toNat && c.toNat ≤ 13)

/-- Digits and blanks of every script as those of ASCII; nothing else beyond ASCII may occur. -/
def toAsciiChar? (c : Char) : Option Char :=
  if c.toNat < 127 then some c
  else if Text.isBlank c then some ' '
  else (Text.digitValue? c).map fun n => Char.ofNat (48 + n)

def toAscii? (s : String) : Option (List Char) :=
  s.toList.mapM toAsciiChar?

def stripPlain (cs : List Char) : List Char :=
  ((cs.dropWhile isPlainBlank).reverse.dropWhile isPlainBlank).reverse

/-- The digits of a group in which underscores stand only between digits. The flag tells whether a
digit came just before. -/
def digitGroup? : (afterDigit : Bool) → List Char → Option (List Char)
  | afterDigit, [] => if afterDigit then some [] else none
  | afterDigit, c :: rest =>
    if c.isDigit then (digitGroup? true rest).map (c :: ·)
    else if c = '_' ∧ afterDigit then digitGroup? false rest
    else none

def digitsToNat (ds : List Char) : Nat :=
  ds.foldl (fun n c => 10 * n + (c.toNat - 48)) 0

/-- A sign, if there is one, and the rest. -/
def splitSign : List Char → Bool × List Char
  | '-' :: rest => (true, rest)
  | '+' :: rest => (false, rest)
  | cs => (false, cs)

def readInt? (s : String) : Option Int := do
  let cs ← toAscii? s
  let (negative, body) := splitSign (stripPlain cs)
  let ds ← digitGroup? false body
  if ds.length > maxDigits then none else some (signed negative (digitsToNat ds))

/-- Underscores may stand between two digits and nowhere else. -/
def dropUnderscores? : (afterDigit : Bool) → List Char → Option (List Char)
  | _, [] => some []
  | afterDigit, '_' :: c :: rest =>
    if afterDigit ∧ c.isDigit then (dropUnderscores? true rest).map (c :: ·) else none
  | _, ['_'] => none
  | _, c :: rest => (dropUnderscores? c.isDigit rest).map (c :: ·)

/-- Unsigned decimal notation: digits with an optional point and an optional exponent. -/
def readDecimal? (negative : Bool) (cs : List Char) : Option Binary64 :=
  let whole := cs.takeWhile Char.isDigit
  let rest := cs.drop whole.length
  let (fraction, rest) := match rest with
    | '.' :: r => (r.takeWhile Char.isDigit, r.dropWhile Char.isDigit)
    | r => ([], r)
  if whole.isEmpty && fraction.isEmpty then none
  else
    let digits := digitsToNat (whole ++ fraction)
    match rest with
    | [] => some (.ofDecimal negative digits (-fraction.length))
    | e :: r =>
      if e = 'e' ∨ e = 'E' then
        let (down, ds) := splitSign r
        if ds.isEmpty || !ds.all Char.isDigit then none
        else some (.ofDecimal negative digits (signed down (digitsToNat ds) - fraction.length))
      else none

def readFloat? (s : String) : Option Binary64 := do
  let cs ← toAscii? s
  let cs ← dropUnderscores? false (stripPlain cs)
  let (negative, body) := splitSign cs
  let word := String.ofList (body.map Char.toLower)
  if word = "inf" || word = "infinity" then some (.infinite negative)
  else if word = "nan" then some .indeterminate
  else readDecimal? negative body

end ServiceBlueprint.Number
