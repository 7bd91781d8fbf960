import ServiceBlueprint.Service.Model

/-!
# Loading services

Only ids, names and field types are mandatory, and they may be null. The other keys may be spelled
in camel case or with underscores, and the former wins.
-/

namespace ServiceBlueprint.Service

/-- An entry that has to be there. -/
def mandatory (raw : Value) (owner field : String) : Attempt Value := do
  if ← raw.has field then raw.index field else throw (.load (.missingField owner field))

def lookupOr (raw : Value) (keys : List String) (default : Value) : Attempt Value := do
  return (← raw.lookupFirst keys).getD default

/-- The elements under a key, each loaded in turn. -/
def loadAll {α : Type} (raw : Value) (key : String) (load : Value → Attempt α) :
    Attempt (List α) := do
  (← (← lookupOr raw [key] (.list [])).elements).mapM load

def Field.ofValue (raw : Value) : Attempt Field := do
  let id ← mandatory raw "Field" "id"
  let name ← mandatory raw "Field" "name"
  let type ← mandatory raw "Field" "type"
  let validation ← lookupOr raw ["validation"] .null
  return {
    id := id
    name := name
    type := type
    required := (← lookupOr raw ["required"] (.bool false)).truthy
    validation := ← if validation.truthy then validation.toEntries else pure []
    sectionId := ← lookupOr raw ["sectionId", "section_id"] .null }

def Section.ofValue (raw : Value) : Attempt Section := do
  let id ← mandatory raw "Section" "id"
  let name ← mandatory raw "Section" "name"
  return ⟨id, name, ← loadAll raw "fields" Field.ofValue⟩

def Form.ofValue (raw : Value) : Attempt Form := do
  let id ← mandatory raw "Form" "id"
  let name ← mandatory raw "Form" "name"
  let type ← lookupOr raw ["type"] .null
  let fields ← loadAll raw "fields" Field.ofValue
  return ⟨id, name, type, fields, ← loadAll raw "sections" Section.ofValue⟩

def Step.ofValue (raw : Value) : Attempt Step := do
  let id ← mandatory raw "Step" "id"
  let name ← mandatory raw "Step" "name"
  return {
    id := id
    name := name
    type := ← lookupOr raw ["type"] .null
    isStart := (← lookupOr raw ["isStart", "is_start"] (.bool false)).truthy
    isTerminal := (← lookupOr raw ["isTerminal", "is_terminal"] (.bool false)).truthy
    roleId := ← lookupOr raw ["roleId", "role_id"] .null
    formId := ← lookupOr raw ["formId", "form_id"] .null }

def Transition.ofValue (raw : Value) : Attempt Transition := do
  let id ← lookupOr raw ["id"] (.text "")
  let source ← lookupOr raw ["fromStepId", "from_step_id"] .null
  let target ← lookupOr raw ["toStepId", "to_step_id"] .null
  return ⟨id, source, target, ← lookupOr raw ["condition"] .null⟩

def Flow.ofValue (raw : Value) : Attempt Flow := do
  let id ← mandatory raw "Workflow" "id"
  let name ← lookupOr raw ["name"] (.text "")
  let steps ← loadAll raw "steps" Step.ofValue
  let transitions ← loadAll raw "transitions" Transition.ofValue
  return ⟨id, name, steps, transitions, ← lookupOr raw ["startStepId", "start_step_id"] .null⟩

end ServiceBlueprint.Service

namespace ServiceBlueprint

def Service.ofValue (raw : Value) : Attempt Service := do
  let id ← Service.lookupOr raw ["id"] (.text "")
  let name ← Service.lookupOr raw ["name"] (.text "")
  let type ← Service.lookupOr raw ["type"] .null
  let forms ← Service.loadAll raw "forms" Service.Form.ofValue
  let flow ← Service.lookupOr raw ["workflow"] .null
  let flow ← if flow.truthy then some <$> Service.Flow.ofValue flow else pure none
  return ⟨id, name, type, forms, flow⟩

end ServiceBlueprint
