import ServiceBlueprint.Markup.Cursor
import ServiceBlueprint.Markup.Tag
import ServiceBlueprint.Number.Reading
import ServiceBlueprint.Text.Case

/-!
# The value of a scalar

A scalar is read by the rules of its tag. Where the tag came from the text itself the text fits,
but for dates that are not in the calendar; a tag that is written out may be on any text, and then
the fault tells how the reading fails.
-/

namespace ServiceBlueprint.Markup

def fault {α : Type} (f : Fault) : Except Failure α :=
  .error (.faulty f)

def orFault {α : Type} (f : Fault) : Option α → Except Failure α
  | some a => .ok a
  | none => fault f

/-! ### Truth values and numbers -/

/-- The words for truth are the ones listed, in any letter case. -/
def readBool (text : String) : Except Failure Value :=
  let word := Text.lower text
  if ["yes", "true", "on"].contains word then .ok (.bool true)
  else if ["no", "false", "off"].contains word then .ok (.bool false)
  else fault .missingKey

def digitIn? (base : Nat) (c : Char) : Option Nat :=
  let n :=
    if c.isDigit then c.toNat - 48
    else if 'a' ≤ c && c ≤ 'f' then c.toNat - 87
    else if 'A' ≤ c && c ≤ 'F' then c.toNat - 55
    else base
  if n < base then some n else none

def digitsIn? (base : Nat) : List Char → Nat → Option Nat
  | [], n => some n
  | c :: cs, n => (digitIn? base c).bind fun d => digitsIn? base cs (base * n + d)

/-- Drops the mark of a base, a zero and a letter, if it is there. -/
def dropMark (letter : Char) : List Char → List Char
  | '0' :: c :: cs => if c.toLower = letter then cs else '0' :: c :: cs
  | cs => cs

/-- An integer in a base whose mark has the given letter. -/
def readBased? (base : Nat) (letter : Char) (cs : List Char) : Option Int := do
  let cs ← Number.toAscii? (String.ofList cs)
  let (negative, body) := Number.splitSign (Number.stripPlain cs)
  let digits := dropMark letter body
  if digits.isEmpty then failure
  return signed negative (← digitsIn? base digits 0)

def readWhole (cs : List Char) : Except Failure Int :=
  orFault .invalidValue (Number.readInt? (String.ofList cs))

def inSixties (parts : List Int) : Int :=
  parts.foldl (fun n d => 60 * n + d) 0

def readMagnitude (cs : List Char) : Except Failure Int :=
  match cs with
  | [] => fault .missingIndex
  | ['0'] => .ok 0
  | '0' :: 'b' :: ds => orFault .invalidValue (readBased? 2 'b' ds)
  | '0' :: 'x' :: ds => orFault .invalidValue (readBased? 16 'x' ds)
  | '0' :: ds => orFault .invalidValue (readBased? 8 'o' ('0' :: ds))
  | cs =>
    if cs.contains ':' then (splitColons cs).mapM readWhole |>.map inSixties
    else readWhole cs

def dropUnderscores (text : String) : List Char :=
  text.toList.filter (· ≠ '_')

def readInt (text : String) : Except Failure Value := do
  let cs := dropUnderscores text
  let n ← readMagnitude (dropSign cs)
  return .int (if cs.head? = some '-' then -n else n)

def readReal (cs : List Char) : Except Failure Binary64 :=
  orFault .invalidValue (Number.readFloat? (String.ofList cs))

/-- The sum of the parts from the last one on, each times a power of sixty. -/
def sumInSixties (unit : Nat) (sum : Binary64) : List Binary64 → Except Failure Binary64
  | [] => .ok sum
  | x :: xs =>
    match Binary64.ofInt unit with
    | .infinite _ => fault .outOfRange
    | u => sumInSixties (60 * unit) (sum.add (x.mul u)) xs

def readUnsignedFloat (cs : List Char) : Except Failure Binary64 :=
  let word := String.ofList cs
  if word = ".inf" then .ok (.infinite false)
  else if word = ".nan" then .ok .indeterminate
  else if cs.contains ':' then do
    sumInSixties 1 .zero (← (splitColons cs).mapM readReal).reverse
  else readReal cs

def readFloat (text : String) : Except Failure Value := do
  let cs := (Text.lower (String.ofList (dropUnderscores text))).toList
  if cs.isEmpty then fault .missingIndex
  let x ← readUnsignedFloat (dropSign cs)
  return .float (if cs.head? = some '-' then x.negate else x)

/-! ### Octets -/

def sextet? (c : Char) : Option Nat :=
  if 'A' ≤ c && c ≤ 'Z' then some (c.toNat - 65)
  else if 'a' ≤ c && c ≤ 'z' then some (c.toNat - 71)
  else if c.isDigit then some (c.toNat + 4)
  else if c = '+' then some 62
  else if c = '/' then some 63
  else none

/-- The whole octets in up to four groups of six bits. -/
def octetsOf : List Nat → List Nat
  | a :: b :: rest => (a * 4 + b / 16) :: match rest with
    | c :: rest => (b % 16 * 16 + c / 4) :: match rest with
      | d :: _ => [c % 4 * 64 + d]
      | [] => []
    | [] => []
  | _ => []

/-- Reads octets in base sixty-four. Characters outside the alphabet are skipped, and so are marks
of padding before they may come; complete padding ends the text. -/
def decode64? : List Char → (group : List Nat) → (pads : Nat) → Option (List Nat)
  | [], group, _ => if group.isEmpty then some [] else none
  | c :: cs, group, pads =>
    if c = '=' then
      if group.length < 2 then decode64? cs group pads
      else if group.length + pads < 3 then decode64? cs group (pads + 1)
      else some (octetsOf group)
    else
      match sextet? c with
      | none => decode64? cs group pads
      | some d =>
        if group.length = 3 then (decode64? cs [] 0).map (octetsOf (group ++ [d]) ++ ·)
        else decode64? cs (group ++ [d]) 0

def readBytes (text : String) : Except Failure Value :=
  let cs := text.toList
  if cs.all (·.toNat < 128) then
    match decode64? cs [] 0 with
    | some octets => .ok (.bytes octets)
    | none => .error .malformed
  else .error .malformed

/-! ### Moments in time -/

/-- Digits of a fraction of a second as microseconds; more than six are cut off. -/
def fractionMicros (ds : List Char) : Nat :=
  let ds := ds.take 6
  number ds * Nat.pow 10 (6 - ds.length)

def offsetMicros (negative : Bool) (hours minutes : Nat) : Int :=
  signed negative ((hours * 60 + minutes) * 60 * Timestamp.microsPerSecond)

def WrittenMoment.toValue? (m : WrittenMoment) : Option Value := do
  let date ← Date.real? m.year m.month m.day
  match m.clock with
  | none => return .date date
  | some c =>
    let offset := c.offset.map fun o => offsetMicros o.1 o.2.1 o.2.2
    let t : Timestamp := ⟨date, c.hour, c.minute, c.second, fractionMicros c.fraction, offset⟩
    if t.isReal then return .timestamp t else failure

def readMoment (text : String) : Except Failure Value :=
  match readMoment? (dropFinalBreak text.toList) with
  | none => fault .missingAttribute
  | some m => orFault .invalidValue m.toValue?

/-! ### All tags -/

/-- The value of a text under a tag that is not one of collections. -/
def readScalar (tag : Tag) (text : String) : Except Failure Value :=
  match tag with
  | .null => .ok .null
  | .bool => readBool text
  | .int => readInt text
  | .float => readFloat text
  | .binary => readBytes text
  | .timestamp => readMoment text
  | .text => .ok (.text text)
  | _ => .error .malformed

end ServiceBlueprint.Markup
