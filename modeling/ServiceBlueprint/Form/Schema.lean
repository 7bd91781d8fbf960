import ServiceBlueprint.Form.Model
import ServiceBlueprint.Pattern.Reader

/-!
# The data schema of a form

A schema gives every active field a property, which is a list of keywords, and names the fields
that are required. Of several fields with one name the last one gives the property. `check` says
whether a schema is well formed; the first fault in the order of its own schema counts.
-/

namespace ServiceBlueprint.Form

inductive DataType where
  | string
  | number
  | boolean
  deriving DecidableEq, Repr

def DataType.name : DataType → String
  | .string => "string"
  | .number => "number"
  | .boolean => "boolean"

inductive Format where
  | email
  | date
  | dataUrl
  deriving DecidableEq, Repr

def Format.name : Format → String
  | .email => "email"
  | .date => "date"
  | .dataUrl => "data-url"

/-- What a property says about a value, or about itself. Bounds are kept as configured. -/
inductive Keyword where
  | type (t : DataType)
  | title (v : Value)
  | description (v : Value)
  | minLength (bound : Value)
  | maxLength (bound : Value)
  | pattern (v : Value)
  | minimum (bound : Value)
  | maximum (bound : Value)
  | format (f : Format)
  | enum (options : List Value)
  | enumNames (labels : List Value)
  | default (v : Value)

namespace Keyword

def name : Keyword → String
  | .type _ => "type"
  | .title _ => "title"
  | .description _ => "description"
  | .minLength _ => "minLength"
  | .maxLength _ => "maxLength"
  | .pattern _ => "pattern"
  | .minimum _ => "minimum"
  | .maximum _ => "maximum"
  | .format _ => "format"
  | .enum _ => "enum"
  | .enumNames _ => "enumNames"
  | .default _ => "default"

def value : Keyword → Value
  | .type t => .text t.name
  | .title v => v
  | .description v => v
  | .minLength v => v
  | .maxLength v => v
  | .pattern v => v
  | .minimum v => v
  | .maximum v => v
  | .format f => .text f.name
  | .enum vs => .list vs
  | .enumNames vs => .list vs
  | .default v => v

end Keyword

abbrev Property := List Keyword

def emailPattern : String := "^[\\w.-]+@[\\w.-]+\\.[a-zA-Z]\x7b2,\x7d$"

def phonePattern : String := "^\\+?[0-9\\s\\-()]\x7b7,20\x7d$"

def unlessNull (v : Value) (keyword : Value → Keyword) : List Keyword :=
  if v.isNull then [] else [keyword v]

def ifTruthy (v : Value) (keyword : Value → Keyword) : List Keyword :=
  if v.truthy then [keyword v] else []

namespace Field

def lengthKeywords (f : Field) : List Keyword :=
  unlessNull (f.property "minLength") .minLength ++
    unlessNull (f.property "maxLength") .maxLength ++ ifTruthy (f.property "pattern") .pattern

def boundKeywords (f : Field) : List Keyword :=
  unlessNull (f.property "min") .minimum ++ unlessNull (f.property "max") .maximum

/-- An option without a label is labelled with its value. -/
def optionKeywords (f : Field) : Attempt (List Keyword) :=
  match f.property "options" with
  | .list options => do
    let values ← options.mapM (·.index "value")
    let labels := (options.zip values).map fun (o, v) => (o.get? "label").getD v
    return [.enum values, .enumNames labels]
  | _ => .ok []

def dataType (f : Field) : DataType :=
  match f.type? with
  | some .number => .number
  | some .checkbox => .boolean
  | _ => .string

def constraints (f : Field) : Attempt (List Keyword) :=
  match f.type? with
  | some .text => .ok f.lengthKeywords
  | some .textArea => .ok f.lengthKeywords
  | some .number => .ok f.boundKeywords
  | some .email => .ok [.format .email, .pattern (.text emailPattern)]
  | some .phone => .ok [.pattern (.text phonePattern)]
  | some .date => .ok [.format .date]
  | some .select => f.optionKeywords
  | some .radio => f.optionKeywords
  | some .file => .ok [.format .dataUrl]
  | some .checkbox => .ok []
  | none => .ok []

def schema (f : Field) : Attempt Property := do
  let constraints ← f.constraints
  return .type f.dataType :: .title f.label ::
    (ifTruthy (f.property "helpText") .description ++ constraints ++
      unlessNull (f.property "defaultValue") .default)

end Field

structure Schema where
  title : Value
  properties : Table Value Property
  required : List Value

def Schema.build (form : Form) : Attempt Schema := do
  let properties ← form.activeFields.mapM fun f => do
    let property ← f.schema
    return (← f.name.asKey, property)
  return ⟨form.name, Table.ofList properties,
    (form.activeFields.filter (·.required)).map (·.name)⟩

/-- A property as a map from keyword to value. -/
def propertyValue (p : Property) : Value :=
  .map (p.map fun k => (.text k.name, k.value))

def Schema.toValue (s : Schema) : Value :=
  .map [(.text "$schema", .text "http://json-schema.org/draft-07/schema#"),
    (.text "type", .text "object"),
    (.text "title", s.title),
    (.text "properties", .map (s.properties.map fun e => (e.1, propertyValue e.2))),
    (.text "required", .list s.required)]

/-! ### Well-formed schemas -/

def PatternError.fault : PatternError → Fault
  | .malformed => .invalidPattern
  | .numberTooLarge => .outOfRange
  | .numberTooLong => .invalidValue
  | .conflictingFlags => .invalidValue

def require (ok : Bool) : Attempt Unit :=
  if ok then .ok () else .error .invalidSchema

/-- A whole number that is not negative, and no truth value. -/
def isLength (v : Value) : Bool :=
  match v with
  | .int n => 0 ≤ n
  | .float x => x.toInt?.any (0 ≤ ·)
  | _ => false

namespace Keyword

/-- Whether the value of a keyword is of the right kind. -/
def isWellTyped : Keyword → Bool
  | .title v => v.isText
  | .description v => v.isText
  | .maximum v => v.number?.isSome
  | .minimum v => v.number?.isSome
  | .maxLength v => isLength v
  | .minLength v => isLength v
  | .pattern v => v.isText
  | _ => true

def checkPattern : Keyword → Attempt Unit
  | .pattern (.text s) =>
    match Pattern.read s with
    | .ok _ => .ok ()
    | .error .malformed => .error .invalidSchema
    | .error e => .error (PatternError.fault e)
  | _ => .ok ()

end Keyword

/-- Patterns are read after everything else has been found in order. -/
def checkProperty (p : Property) : Attempt Unit := do
  require (p.all (·.isWellTyped))
  p.forM (·.checkPattern)

def hasRepeats : List Value → Bool
  | [] => false
  | x :: xs => xs.contains x || hasRepeats xs

def Schema.check (s : Schema) : Attempt Unit := do
  require s.title.isText
  require (s.required.all (·.isText) && !hasRepeats s.required)
  s.properties.forM fun e => checkProperty e.2

end ServiceBlueprint.Form
