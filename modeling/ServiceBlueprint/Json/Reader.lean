import ServiceBlueprint.Number.Reading
import ServiceBlueprint.Value.Basic

/-!
# Reading JSON

A number with a point or an exponent is a double and any other an integer of whatever size. Objects
keep the order of their members. An escaped surrogate pair is one character; a lone surrogate
becomes the replacement character.
-/

namespace ServiceBlueprint.Json

abbrev Rest := List Char

def isSpace (c : Char) : Bool :=
  c = ' ' || c = '\n' || c = '\r' || c = '\t'

def skipSpace (cs : Rest) : Rest :=
  cs.dropWhile isSpace

def hexValue? (c : Char) : Option Nat :=
  if c.isDigit then some (c.toNat - 48)
  else if 'a' ≤ c ∧ c ≤ 'f' then some (c.toNat - 87)
  else if 'A' ≤ c ∧ c ≤ 'F' then some (c.toNat - 55)
  else none

def readHex4 : Rest → Option (Nat × Rest)
  | a :: b :: c :: d :: rest => do
    let a ← hexValue? a
    let b ← hexValue? b
    let c ← hexValue? c
    let d ← hexValue? d
    return (((a * 16 + b) * 16 + c) * 16 + d, rest)
  | _ => none

def replacement : Char := Char.ofNat 0xFFFD

/-- The character of one or two units behind a `\u`. -/
def readUnits (cs : Rest) : Option (Char × Rest) := do
  let (n, rest) ← readHex4 cs
  if 0xD800 ≤ n ∧ n < 0xDC00 then
    match rest with
    | '\\' :: 'u' :: more =>
      let (low, after) ← readHex4 more
      if 0xDC00 ≤ low ∧ low < 0xE000 then
        return (Char.ofNat (0x10000 + (n - 0xD800) * 0x400 + (low - 0xDC00)), after)
      else return (replacement, rest)
    | _ => return (replacement, rest)
  else if 0xDC00 ≤ n ∧ n < 0xE000 then return (replacement, rest)
  else return (Char.ofNat n, rest)

def namedEscape? : Char → Option Char
  | '"' => some '"'
  | '\\' => some '\\'
  | '/' => some '/'
  | 'b' => some '\x08'
  | 'f' => some '\x0c'
  | 'n' => some '\n'
  | 'r' => some '\r'
  | 't' => some '\t'
  | _ => none

/-- The characters up to the closing quote, last first, and what follows it. -/
def readChars : Nat → Rest → List Char → Option (String × Rest)
  | 0, _, _ => none
  | fuel + 1, cs, soFar =>
    match cs with
    | [] => none
    | '"' :: rest => some (String.ofList soFar.reverse, rest)
    | '\\' :: 'u' :: rest =>
      match readUnits rest with
      | some (c, rest) => readChars fuel rest (c :: soFar)
      | none => none
    | '\\' :: e :: rest =>
      match namedEscape? e with
      | some c => readChars fuel rest (c :: soFar)
      | none => none
    | c :: rest => readChars fuel rest (c :: soFar)

def isNumberChar (c : Char) : Bool :=
  c.isDigit || c = '-' || c = '+' || c = '.' || c = 'e' || c = 'E'

def readNumber (cs : Rest) : Option (Value × Rest) :=
  let word := cs.takeWhile isNumberChar
  let rest := cs.drop word.length
  let (negative, body) := Number.splitSign word
  if body.all Char.isDigit && !body.isEmpty then
    some (.int (signed negative (Number.digitsToNat body)), rest)
  else (Number.readDecimal? negative body).map fun x => (.float x, rest)

mutual

def readValue : Nat → Rest → Option (Value × Rest)
  | 0, _ => none
  | fuel + 1, cs =>
    match skipSpace cs with
    | '"' :: rest => (readChars (rest.length + 1) rest []).map fun (s, rest) => (.text s, rest)
    | '[' :: rest =>
      match skipSpace rest with
      | ']' :: rest => some (.list [], rest)
      | rest => (readItems fuel rest).map fun (xs, rest) => (.list xs, rest)
    | '\x7b' :: rest =>
      match skipSpace rest with
      | '\x7d' :: rest => some (.map [], rest)
      | rest => (readMembers fuel rest).map fun (es, rest) => (.map es, rest)
    | 't' :: 'r' :: 'u' :: 'e' :: rest => some (.bool true, rest)
    | 'f' :: 'a' :: 'l' :: 's' :: 'e' :: rest => some (.bool false, rest)
    | 'n' :: 'u' :: 'l' :: 'l' :: rest => some (.null, rest)
    | cs => readNumber cs

/-- The items of an array up to its bracket, of which there is at least one. -/
def readItems : Nat → Rest → Option (List Value × Rest)
  | 0, _ => none
  | fuel + 1, cs => do
    let (x, rest) ← readValue fuel cs
    match skipSpace rest with
    | ',' :: rest =>
      let (xs, rest) ← readItems fuel rest
      return (x :: xs, rest)
    | ']' :: rest => return ([x], rest)
    | _ => none

def readMembers : Nat → Rest → Option (List (Value × Value) × Rest)
  | 0, _ => none
  | fuel + 1, cs =>
    match skipSpace cs with
    | '"' :: rest => do
      let (k, rest) ← readChars (rest.length + 1) rest []
      match skipSpace rest with
      | ':' :: rest =>
        let (v, rest) ← readValue fuel rest
        match skipSpace rest with
        | ',' :: rest =>
          let (es, rest) ← readMembers fuel rest
          return ((.text k, v) :: es, rest)
        | '\x7d' :: rest => return ([(.text k, v)], rest)
        | _ => none
      | _ => none
    | _ => none

end

def read? (s : String) : Option Value := do
  let cs := s.toList
  let (v, rest) ← readValue (cs.length + 1) cs
  if (skipSpace rest).isEmpty then some v else none

end ServiceBlueprint.Json
