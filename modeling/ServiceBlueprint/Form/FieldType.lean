import ServiceBlueprint.Text.Blank
import ServiceBlueprint.Text.Case

/-!
# Types of form fields

The name of a type is read in any letter case and with blanks around it. A type that is not among
these is kept as text elsewhere and imposes nothing.
-/

namespace ServiceBlueprint

inductive FieldType where
  | text
  | textArea
  | number
  | email
  | phone
  | date
  | select
  | radio
  | checkbox
  | file
  deriving DecidableEq, Repr

namespace FieldType

def all : List FieldType :=
  [.text, .textArea, .number, .email, .phone, .date, .select, .radio, .checkbox, .file]

def name : FieldType → String
  | .text => "TEXT"
  | .textArea => "TEXTAREA"
  | .number => "NUMBER"
  | .email => "EMAIL"
  | .phone => "PHONE"
  | .date => "DATE"
  | .select => "SELECT"
  | .radio => "RADIO"
  | .checkbox => "CHECKBOX"
  | .file => "FILE"

def ofName? (s : String) : Option FieldType :=
  all.find? (·.name = s)

/-- A telephone number may also be called `TEL`. -/
def parse? (raw : String) : Option FieldType :=
  let s := Text.upper (Text.trim raw)
  if s = "TEL" then some .phone else ofName? s

end FieldType

end ServiceBlueprint
