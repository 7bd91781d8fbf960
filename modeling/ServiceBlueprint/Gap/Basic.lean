import ServiceBlueprint.Value.Basic

/-!
# Gaps

A gap is something a service lacks. It says where, how severe it is and what might be done, and
may carry a fix that can be applied by machine.
-/

namespace ServiceBlueprint.Gap

inductive Severity where
  | critical
  | warning
  | suggestion
  deriving DecidableEq, Repr

namespace Severity

def all : List Severity := [.critical, .warning, .suggestion]

def name : Severity → String
  | .critical => "critical"
  | .warning => "warning"
  | .suggestion => "suggestion"

def ofName? (s : String) : Option Severity :=
  all.find? (·.name = s)

end Severity

inductive Kind where
  | missingField
  | orphanStep
  | missingTransition
  | missingValidation
  | invalidSequence
  | missingEndState
  | missingStartState
  deriving DecidableEq, Repr

namespace Kind

def all : List Kind :=
  [.missingField, .orphanStep, .missingTransition, .missingValidation, .invalidSequence,
    .missingEndState, .missingStartState]

def name : Kind → String
  | .missingField => "MISSING_FIELD"
  | .orphanStep => "ORPHAN_STEP"
  | .missingTransition => "MISSING_TRANSITION"
  | .missingValidation => "MISSING_VALIDATION"
  | .invalidSequence => "INVALID_SEQUENCE"
  | .missingEndState => "MISSING_END_STATE"
  | .missingStartState => "MISSING_START_STATE"

def ofName? (s : String) : Option Kind :=
  all.find? (·.name = s)

end Kind

inductive Entity where
  | form
  | field
  | workflow
  | step
  | section
  deriving DecidableEq, Repr

namespace Entity

def all : List Entity := [.form, .field, .workflow, .step, .section]

def name : Entity → String
  | .form => "form"
  | .field => "field"
  | .workflow => "workflow"
  | .step => "step"
  | .section => "section"

def ofName? (s : String) : Option Entity :=
  all.find? (·.name = s)

end Entity

inductive Action where
  | addField
  | addValidation
  | addTransition
  | removeStep
  | setTerminal
  | addStartState
  deriving DecidableEq, Repr

namespace Action

def all : List Action :=
  [.addField, .addValidation, .addTransition, .removeStep, .setTerminal, .addStartState]

def name : Action → String
  | .addField => "add_field"
  | .addValidation => "add_validation"
  | .addTransition => "add_transition"
  | .removeStep => "remove_step"
  | .setTerminal => "set_terminal"
  | .addStartState => "add_start_state"

def ofName? (s : String) : Option Action :=
  all.find? (·.name = s)

end Action

/-- Where a gap is; null stands for what is not known. -/
structure Location where
  entity : Entity
  id : Value
  name : Value
  parentId : Value
  parentName : Value

structure Fix where
  action : Action
  params : List (Value × Value)
  description : String

end ServiceBlueprint.Gap

namespace ServiceBlueprint

structure Gap where
  id : String
  /-- The name of the rule that is broken, if a rule found the gap. -/
  rule : String
  kind : Gap.Kind
  severity : Gap.Severity
  message : String
  suggestion : String
  location : Gap.Location
  fix : Option Gap.Fix

namespace Gap

/-- The entries of a map with text keys, without those that are null. -/
def known (es : List (String × Value)) : List (Value × Value) :=
  (es.filter (·.2 ≠ .null)).map fun e => (.text e.1, e.2)

def Location.toValue (l : Location) : Value :=
  .map ((.text "entityType", .text l.entity.name) ::
    known [("entityId", l.id), ("entityName", l.name), ("parentId", l.parentId),
      ("parentName", l.parentName)])

def Fix.toValue (f : Fix) : Value :=
  .map [(.text "action", .text f.action.name), (.text "params", .map f.params),
    (.text "description", .text f.description)]

def toValue (g : Gap) : Value :=
  .map ([(.text "id", .text g.id), (.text "type", .text g.kind.name),
    (.text "severity", .text g.severity.name), (.text "message", .text g.message),
    (.text "suggestion", .text g.suggestion), (.text "location", g.location.toValue)] ++
    match g.fix with
    | some f => [(.text "fix", f.toValue)]
    | none => [])

end Gap

end ServiceBlueprint
