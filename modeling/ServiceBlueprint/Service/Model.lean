import ServiceBlueprint.Value.Access

/-!
# Services under design

A service as it is drawn before anything is published: forms with fields, some of them in sections,
and a flow of steps and transitions between them.
-/

namespace ServiceBlueprint.Service

structure Field where
  id : Value
  name : Value
  type : Value
  required : Bool
  validation : Table Value Value
  sectionId : Value

structure Section where
  id : Value
  name : Value
  fields : List Field

structure Form where
  id : Value
  name : Value
  type : Value
  fields : List Field
  sections : List Section

structure Step where
  id : Value
  name : Value
  type : Value
  isStart : Bool
  isTerminal : Bool
  roleId : Value
  formId : Value

structure Transition where
  id : Value
  source : Value
  target : Value
  condition : Value

structure Flow where
  id : Value
  name : Value
  steps : List Step
  transitions : List Transition
  startStepId : Value

end ServiceBlueprint.Service

namespace ServiceBlueprint

structure Service where
  id : Value
  name : Value
  type : Value
  forms : List Service.Form
  flow : Option Service.Flow

namespace Service

/-- The fields of a form, those outside its sections first. -/
def Form.allFields (form : Form) : List Field :=
  form.fields ++ form.sections.flatMap (·.fields)

def allFields (s : Service) : List Field :=
  s.forms.flatMap (·.allFields)

end Service

end ServiceBlueprint
