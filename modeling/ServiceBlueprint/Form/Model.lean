import ServiceBlueprint.Form.FieldType
import ServiceBlueprint.Value.Access

/-!
# Forms

A form owns fields and sections. A field stands in one section or at the top, and fields and
sections may have a rule that shows them only for certain values of another field. What is not
active takes no part in anything but storage.
-/

namespace ServiceBlueprint.Form

/-- The comparisons a stored rule may ask for. -/
inductive RuleOperator where
  | equals
  | notEquals
  | contains
  | greaterThan
  | lessThan
  | greaterThanOrEquals
  | lessThanOrEquals
  | isEmpty
  | isNotEmpty
  deriving DecidableEq, Repr

namespace RuleOperator

def all : List RuleOperator :=
  [.equals, .notEquals, .contains, .greaterThan, .lessThan, .greaterThanOrEquals,
    .lessThanOrEquals, .isEmpty, .isNotEmpty]

def name : RuleOperator → String
  | .equals => "equals"
  | .notEquals => "notEquals"
  | .contains => "contains"
  | .greaterThan => "greaterThan"
  | .lessThan => "lessThan"
  | .greaterThanOrEquals => "greaterThanOrEquals"
  | .lessThanOrEquals => "lessThanOrEquals"
  | .isEmpty => "isEmpty"
  | .isNotEmpty => "isNotEmpty"

def ofName? (s : String) : Option RuleOperator :=
  all.find? (·.name = s)

end RuleOperator

/-- Shows its owner only when the value of the source field compares as asked. -/
structure VisibilityRule where
  source : Value
  writtenOperator : String
  value : Value

def VisibilityRule.operator? (r : VisibilityRule) : Option RuleOperator :=
  RuleOperator.ofName? r.writtenOperator

structure Field where
  id : Value
  name : Value
  label : Value
  typeName : String
  required : Bool
  sectionId : Value
  sortOrder : Int
  properties : Table Value Value
  rule : Option VisibilityRule
  isActive : Bool

namespace Field

def type? (f : Field) : Option FieldType :=
  FieldType.parse? f.typeName

/-- A property that is absent counts as null. -/
def property (f : Field) (key : String) : Value :=
  (f.properties.find? (.text key)).getD .null

/-- The section a field stands in; null stands for the top. -/
def placement (f : Field) : Value :=
  if f.sectionId.truthy then f.sectionId else .null

end Field

structure Section where
  id : Value
  name : Value
  parentId : Value
  sortOrder : Int
  rule : Option VisibilityRule
  isActive : Bool

end ServiceBlueprint.Form

namespace ServiceBlueprint

structure Form where
  id : Value
  name : Value
  updatedAt : Timestamp
  fields : List Form.Field
  sections : List Form.Section

namespace Form

/-- Active fields by sort order; those of equal order stay as they were. -/
def activeFields (form : Form) : List Field :=
  (form.fields.filter (·.isActive)).mergeSort fun a b => a.sortOrder ≤ b.sortOrder

def activeSections (form : Form) : List Section :=
  (form.sections.filter (·.isActive)).mergeSort fun a b => a.sortOrder ≤ b.sortOrder

end Form

end ServiceBlueprint
