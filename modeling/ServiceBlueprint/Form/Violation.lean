import ServiceBlueprint.Calendar.Reading
import ServiceBlueprint.Form.Schema
import ServiceBlueprint.Pattern.Matching

/-!
# What a value violates

Each keyword of a property admits some values and names a violation for the others. Bounds on
length and patterns concern texts only, and bounds on size numbers only. A truth value is no
number here, also among the options of an enumeration. Messages quote whole numbers of any size;
that one of more than `Number.maxDigits` digits cannot be put in words is left out, since no
document can hold it.
-/

namespace ServiceBlueprint.Form

inductive Violation where
  | missing
  | notOfType (v : Value) (t : DataType)
  | tooShort (v bound : Value)
  | tooLong (v bound : Value)
  | noMatch (v pattern : Value)
  | belowMinimum (v bound : Value)
  | aboveMaximum (v bound : Value)
  | notListed (v : Value) (options : List Value)
  | notInFormat (v : Value) (f : Format)

def requiredMessage : String := "This field is required"

namespace Violation

def message : Violation → String
  | .missing => requiredMessage
  | .notOfType v t => v.literal ++ " is not of type " ++ Text.quoted t.name
  | .tooShort v bound =>
    v.literal ++ " " ++ if bound == .int 1 then "should be non-empty" else "is too short"
  | .tooLong v bound =>
    v.literal ++ " " ++ if bound == .int 0 then "is expected to be empty" else "is too long"
  | .noMatch v pattern => v.literal ++ " does not match " ++ pattern.literal
  | .belowMinimum v bound => v.literal ++ " is less than the minimum of " ++ bound.literal
  | .aboveMaximum v bound => v.literal ++ " is greater than the maximum of " ++ bound.literal
  | .notListed v options => v.literal ++ " is not one of " ++ (Value.list options).literal
  | .notInFormat v f => v.literal ++ " is not a " ++ Text.quoted f.name

end Violation

def DataType.admits (t : DataType) (v : Value) : Bool :=
  match t with
  | .string => v.isText
  | .number => v.number?.isSome
  | .boolean =>
    match v with
    | .bool _ => true
    | _ => false

def isDateShape (s : String) : Bool :=
  match s.toList with
  | [a, b, c, d, '-', e, f, '-', g, h] => [a, b, c, d, e, f, g, h].all Char.isDigit
  | _ => false

def Format.admits (f : Format) (s : String) : Bool :=
  match f with
  | .email => s.toList.contains '@'
  | .date => isDateShape s && (Calendar.readDate? s).isSome
  | .dataUrl => true

/-- The order of a quantity relative to a bound, which has to be a number or truth value. -/
def compareToBound (q : Value.Quantity) (bound : Value) : Attempt (Option Ordering) :=
  match bound.quantity? with
  | some b => .ok (q.compare? b)
  | none => .error .wrongType

def readPattern : Value → Attempt Pattern
  | .text s =>
    match Pattern.read s with
    | .ok p => .ok p
    | .error e => .error (PatternError.fault e)
  | _ => .error .wrongType

def violationIf (p : Bool) (violation : Violation) : Option Violation :=
  if p then some violation else none

/-- The violation of a keyword by a value, if any. A bound or pattern that cannot be applied is a
fault of its kind. -/
def Keyword.violation? (k : Keyword) (v : Value) : Attempt (Option Violation) :=
  match k, v with
  | .type t, v => .ok (violationIf (!t.admits v) (.notOfType v t))
  | .minLength bound, .text s => do
    return violationIf ((← compareToBound (.whole s.length) bound) = some .lt) (.tooShort v bound)
  | .maxLength bound, .text s => do
    return violationIf ((← compareToBound (.whole s.length) bound) = some .gt) (.tooLong v bound)
  | .pattern p, .text s => do
    return violationIf (!(← readPattern p).foundIn s) (.noMatch v p)
  | .minimum bound, v =>
    match v.number? with
    | some q => do
      return violationIf ((← compareToBound q bound) = some .lt) (.belowMinimum v bound)
    | none => .ok none
  | .maximum bound, v =>
    match v.number? with
    | some q => do
      return violationIf ((← compareToBound q bound) = some .gt) (.aboveMaximum v bound)
    | none => .ok none
  | .enum options, v => .ok (violationIf (!options.any (·.strictlySame v)) (.notListed v options))
  | .format f, .text s => .ok (violationIf (!f.admits s) (.notInFormat v f))
  | _, _ => .ok none

/-- All violations of a property by a value, in the order of its keywords. -/
def violations (p : Property) (v : Value) : Attempt (List Violation) := do
  return (← p.mapM (·.violation? v)).filterMap fun o => o

end ServiceBlueprint.Form
