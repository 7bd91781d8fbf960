import ServiceBlueprint.Calendar.Reading
import ServiceBlueprint.Form.Condition
import ServiceBlueprint.Form.Violation

/-!
# Checking one value while a form is filled in

A blank value is refused exactly when the field is required. Any other value is checked by the
type of the field; types that are not known accept everything. A date bound that cannot be read is
reported and then ignored. A complaint is put in words, unless it would quote a whole number that has
too many digits to be written.
-/

namespace ServiceBlueprint.Form

inductive Complaint where
  | required
  | notText
  | tooShort (bound : Value)
  | tooLong (bound : Value)
  | notEmail
  | notPhone
  | notNumber
  | belowMinimum (bound : Value)
  | aboveMaximum (bound : Value)
  | notDate
  | tooEarly (bound : Value)
  | tooLate (bound : Value)
  | notOption

def Complaint.message : Complaint → String
  | .required => requiredMessage
  | .notText => "Invalid text value"
  | .tooShort bound => "Minimum " ++ bound.display ++ " characters required"
  | .tooLong bound => "Maximum " ++ bound.display ++ " characters allowed"
  | .notEmail => "Please enter a valid email address"
  | .notPhone => "Please enter a valid phone number"
  | .notNumber => "Please enter a valid number"
  | .belowMinimum bound => "Minimum value is " ++ bound.display
  | .aboveMaximum bound => "Maximum value is " ++ bound.display
  | .notDate => "Please enter a valid date"
  | .tooEarly bound => "Date must be on or after " ++ bound.display
  | .tooLate bound => "Date must be on or before " ++ bound.display
  | .notOption => "Please select a valid option"

/-- The bound that a complaint quotes. -/
def Complaint.bound? : Complaint → Option Value
  | .tooShort bound => some bound
  | .tooLong bound => some bound
  | .belowMinimum bound => some bound
  | .aboveMaximum bound => some bound
  | .tooEarly bound => some bound
  | .tooLate bound => some bound
  | _ => none

/-- Whole numbers are written with `maxDigits` digits at most. -/
def isWritable : Value → Bool
  | .int n => (Nat.toDigits 10 n.natAbs).length ≤ Number.maxDigits
  | _ => true

def Complaint.text (complaint : Complaint) : Attempt String :=
  if complaint.bound?.all isWritable then .ok complaint.message else .error .invalidValue

def startsAs (pattern : String) (v : Value) : Bool :=
  match v, Pattern.read pattern with
  | .text s, .ok p => p.matchesStart s
  | _, _ => false

namespace Field

def checkText (f : Field) (v : Value) : Attempt (Option Complaint) :=
  match v with
  | .text s => do
    let least := f.property "minLength"
    let most := f.property "maxLength"
    if least.truthy then
      if (← compareToBound (.whole s.length) least) = some .lt then return some (.tooShort least)
    if most.truthy then
      if (← compareToBound (.whole s.length) most) = some .gt then return some (.tooLong most)
    return none
  | _ => .ok (some .notText)

/-- Texts that read as numbers are numbers here; what is too large for a double is out of range. -/
def checkNumber (f : Field) (v : Value) : Attempt (Option Complaint) :=
  match v.toFloat with
  | .error .outOfRange => .error .outOfRange
  | .error _ => .ok (some .notNumber)
  | .ok x => do
    let least := f.property "min"
    let most := f.property "max"
    if !least.isNull then
      if (← compareToBound (.real x) least) = some .lt then return some (.belowMinimum least)
    if !most.isNull then
      if (← compareToBound (.real x) most) = some .gt then return some (.aboveMaximum most)
    return none

def dateBound? (f : Field) (key : String) : Option Date :=
  let raw := f.property key
  if raw.truthy then Calendar.readDate? raw.display else none

def checkDate (f : Field) (v : Value) : Option Complaint :=
  match Calendar.readDate? v.display with
  | none => some .notDate
  | some d =>
    if (f.dateBound? "minDate").any d.precedes then some (.tooEarly (f.property "minDate"))
    else if (f.dateBound? "maxDate").any (·.precedes d) then
      some (.tooLate (f.property "maxDate"))
    else none

def checkOption (f : Field) (v : Value) : Attempt (Option Complaint) := do
  let options := f.property "options"
  if options.truthy then
    let values ← (← options.elements).mapM (·.index "value")
    return if values.contains v then none else some .notOption
  else return none

def check (f : Field) (v : Value) : Attempt (Option Complaint) :=
  if isBlank v then .ok (if f.required then some .required else none)
  else
    match f.type? with
    | some .text => f.checkText v
    | some .textArea => f.checkText v
    | some .email => .ok (if startsAs emailPattern v then none else some .notEmail)
    | some .phone => .ok (if startsAs phonePattern v then none else some .notPhone)
    | some .number => f.checkNumber v
    | some .date => .ok (f.checkDate v)
    | some .select => f.checkOption v
    | some .radio => f.checkOption v
    | some .checkbox => .ok none
    | some .file => .ok none
    | none => .ok none

/-- What is said about a value: the text of a complaint, or nothing. -/
def feedback (f : Field) (v : Value) : Attempt (Option String) := do
  match ← f.check v with
  | some complaint => return some (← complaint.text)
  | none => return none

def boundEvents (f : Field) (key : String) : List Log.Event :=
  let raw := f.property key
  if raw.truthy && (f.dateBound? key).isNone then
    [.plain "service_designer.domain.forms.submission" .warning
      ("Ignoring invalid " ++ key ++ " " ++ raw.literal ++ " on field " ++ f.name.display)]
  else []

/-- Date bounds are read once the value is known to be a date. -/
def checkEvents (f : Field) (v : Value) : List Log.Event :=
  if !isBlank v && f.type? = some .date && (Calendar.readDate? v.display).isSome then
    f.boundEvents "minDate" ++ f.boundEvents "maxDate"
  else []

end Field

end ServiceBlueprint.Form
