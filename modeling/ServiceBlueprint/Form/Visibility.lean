import ServiceBlueprint.Form.Condition
import ServiceBlueprint.Form.Model

/-!
# Visibility rules of a form

Stored rules name their source field by id. The export resolves ids to field names, turns the
stored operators into those of conditions, and gives one rule per target. A rule whose source is
not an active field or whose operator is unknown is left out, and its owner is always visible.
-/

namespace ServiceBlueprint.Form

def RuleOperator.exported : RuleOperator → Operator
  | .equals => .equal
  | .notEquals => .notEqual
  | .contains => .contains
  | .greaterThan => .greaterThan
  | .lessThan => .lessThan
  | .greaterThanOrEquals => .greaterThanInclusive
  | .lessThanOrEquals => .lessThanInclusive
  | .isEmpty => .equal
  | .isNotEmpty => .notEqual

def RuleOperator.testsEmptiness (op : RuleOperator) : Bool :=
  op = .isEmpty || op = .isNotEmpty

inductive TargetKind where
  | field
  | section
  deriving DecidableEq, Repr

namespace TargetKind

def name : TargetKind → String
  | .field => "field"
  | .section => "section"

/-- Where an export keeps the rules of its targets. -/
def group : TargetKind → String
  | .field => "fields"
  | .section => "sections"

end TargetKind

structure ExportedRule where
  targetId : Value
  targetName : Value
  condition : Condition

structure RuleExport where
  fields : List ExportedRule
  sections : List ExportedRule

def RuleExport.rules (e : RuleExport) : TargetKind → List ExportedRule
  | .field => e.fields
  | .section => e.sections

/-- What may have a rule. -/
structure Owner where
  kind : TargetKind
  id : Value
  name : Value
  rule : Option VisibilityRule

def Field.owner (f : Field) : Owner := ⟨.field, f.id, f.name, f.rule⟩

def Section.owner (s : Section) : Owner := ⟨.section, s.id, s.name, s.rule⟩

def owners (form : Form) : List Owner :=
  form.activeFields.map Field.owner ++ form.activeSections.map Section.owner

/-- Of several fields with one id the last counts. -/
def fieldById? (fields : List Field) (id : Value) : Option Field :=
  fields.reverse.find? (·.id == id)

def VisibilityRule.condition? (r : VisibilityRule) (fields : List Field) : Option Condition := do
  let source ← fieldById? fields r.source
  let op ← r.operator?
  return ⟨source.name, op.exported, if op.testsEmptiness then .text "" else r.value⟩

def Owner.exported? (o : Owner) (fields : List Field) : Option ExportedRule := do
  return ⟨o.id, o.name, ← (← o.rule).condition? fields⟩

/-- Ids of active fields and sources of rules have to be keys. -/
def hasKeys (form : Form) : Bool :=
  form.activeFields.all (·.id.isKey) &&
    (owners form).all fun o => o.rule.all (·.source.isKey)

def exportRules (form : Form) : Attempt RuleExport :=
  if hasKeys form then
    .ok ⟨form.activeFields.filterMap (·.owner.exported? form.activeFields),
      form.activeSections.filterMap (·.owner.exported? form.activeFields)⟩
  else .error .wrongType

/-- The owners of rules whose source is not an active field, with the source. -/
def unresolvedRules (form : Form) : Attempt (List (Owner × Value)) :=
  if hasKeys form then
    .ok ((owners form).filterMap fun o => do
      let r ← o.rule
      if (fieldById? form.activeFields r.source).isNone then some (o, r.source) else none)
  else .error .wrongType

/-! ### Hidden targets -/

/-- A target is hidden when the condition of its rule does not hold. -/
def ExportedRule.hides (r : ExportedRule) (values : Value) : Attempt Bool := do
  let facts ← factsOf values
  let _ ← r.condition.fact.asKey
  return !r.condition.holds facts

/-- Each value once, in the order of its first occurrence. -/
def distinct (vs : List Value) : List Value :=
  vs.foldl addUnlessThere []

def RuleExport.hiding (e : RuleExport) (kind : TargetKind) (values : Value) :
    Attempt (List ExportedRule) :=
  (e.rules kind).filterM (·.hides values)

def RuleExport.hiddenNames (e : RuleExport) (kind : TargetKind) (values : Value) :
    Attempt (List Value) := do
  return distinct (← (← e.hiding kind values).mapM (·.targetName.asKey))

def RuleExport.hiddenIds (e : RuleExport) (kind : TargetKind) (values : Value) :
    Attempt (List Value) := do
  return distinct (← (← e.hiding kind values).mapM (·.targetId.asKey))

/-! ### Exports as maps -/

def entries (es : List (String × Value)) : Value :=
  .map (es.map fun e => (.text e.1, e.2))

def Condition.toValue (c : Condition) : Value :=
  entries [("fact", c.fact), ("operator", .text c.operator.name), ("value", c.expected)]

def ExportedRule.toValue (r : ExportedRule) (kind : TargetKind) : Value :=
  entries [("targetId", r.targetId), ("targetName", r.targetName),
    ("targetType", .text kind.name),
    ("rule", entries [("conditions", entries [("all", .list [r.condition.toValue])]),
      ("event", entries [("type", .text "visible")])])]

def RuleExport.toValue (e : RuleExport) : Value :=
  entries [("fields", .list (e.fields.map (·.toValue .field))),
    ("sections", .list (e.sections.map (·.toValue .section)))]

/-- The rules of an export written as a map that hide their targets. -/
def writtenHiding (written values : Value) (kind : TargetKind) : Attempt (List Value) := do
  let rules ← ((← written.lookup kind.group).getD (.list [])).elements
  rules.filterM fun r => do return !(← evaluateRule (← r.index "rule") values)

def writtenHidden (written values : Value) (kind : TargetKind) (key : String) :
    Attempt (List Value) := do
  return distinct (← (← writtenHiding written values kind).mapM fun r => do
    (← r.index key).asKey)

/-! ### What is reported -/

def visibilityLogger : String := "service_designer.domain.forms.visibility"

/-- Events of the owners in turn, up to one whose source may not be a key. -/
def dropEvents (fields : List Field) : List Owner → List Log.Event
  | [] => []
  | o :: os =>
    match o.rule with
    | none => dropEvents fields os
    | some r =>
      if !r.source.isKey then []
      else
        let here : List Log.Event :=
          if (fieldById? fields r.source).isNone then
            [.plain visibilityLogger .debug
              ("Dropping visibility rule: unknown source field " ++ r.source.display)]
          else if r.operator?.isNone then
            [.plain visibilityLogger .debug
              ("Dropping visibility rule: unknown operator " ++ Text.quoted r.writtenOperator)]
          else []
        here ++ dropEvents fields os

def exportEvents (form : Form) : List Log.Event :=
  if form.activeFields.all (·.id.isKey) then dropEvents form.activeFields (owners form) else []

/-- Events of evaluating the rules of a written export in turn, up to one that cannot be. -/
def writtenEvents (values : Value) : List Value → List Log.Event
  | [] => []
  | r :: rs =>
    match r.index "rule" with
    | .error _ => []
    | .ok rule =>
      match evaluateRule rule values with
      | .ok _ => ruleEvents rule values ++ writtenEvents values rs
      | .error _ => ruleEvents rule values

def hidingEvents (written values : Value) (kind : TargetKind) : List Log.Event :=
  match written.lookup kind.group with
  | .error _ => []
  | .ok rules =>
    match (rules.getD (.list [])).elements with
    | .error _ => []
    | .ok rs => writtenEvents values rs

end ServiceBlueprint.Form
