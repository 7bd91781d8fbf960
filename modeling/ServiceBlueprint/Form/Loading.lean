import ServiceBlueprint.Calendar.Reading
import ServiceBlueprint.Form.Model

/-!
# Loading forms

Keys may be spelled in camel case or with underscores, and the former wins. A mandatory entry that
is absent and a time of change that cannot be read are load errors.
-/

namespace ServiceBlueprint.Form

/-- An entry that has to be there, though it may be null. -/
def mandatory (raw : Value) (owner field : String) : Attempt Value :=
  match raw.index field with
  | .error .missingKey => .error (.load (.missingField owner field))
  | other => other

/-- An entry that has to be there under one of two spellings. -/
def mandatoryEither (raw : Value) (owner first second : String) : Attempt Value := do
  if ← raw.has first then raw.index first else mandatory raw owner second

def lookupOr (raw : Value) (keys : List String) (default : Value) : Attempt Value := do
  return (← raw.lookupFirst keys).getD default

/-- What is not a map with a source is no rule. -/
def VisibilityRule.ofValue? (raw : Value) : Option VisibilityRule :=
  match raw with
  | .map _ =>
    let source := ((raw.get? "sourceFieldId") <|> (raw.get? "source_field_id")).getD .null
    if source.truthy then
      some
        { source := source
          writtenOperator := ((raw.get? "operator").getD (.text "")).display
          value := (raw.get? "value").getD .null }
    else none
  | _ => none

def readRule (raw : Value) : Attempt (Option VisibilityRule) := do
  return VisibilityRule.ofValue? (← lookupOr raw ["visibilityRule", "visibility_rule"] .null)

def readIsActive (raw : Value) : Attempt Bool := do
  return (← lookupOr raw ["isActive", "is_active"] (.bool true)).truthy

def readSortOrder (raw : Value) : Attempt Int := do
  (← lookupOr raw ["sortOrder", "sort_order"] (.int 0)).toInt

def entriesUnlessEmpty (v : Value) : Attempt (List (Value × Value)) :=
  if v.truthy then v.toEntries else .ok []

def Field.ofValue (raw : Value) : Attempt Field := do
  let id ← mandatoryEither raw "Field" "id" "field_id"
  let name ← mandatory raw "Field" "name"
  let type ← mandatory raw "Field" "type"
  return {
    id := id
    name := name
    label := ← lookupOr raw ["label"] name
    typeName := type.display
    required := (← lookupOr raw ["required"] (.bool false)).truthy
    sectionId := ← lookupOr raw ["sectionId", "section_id"] .null
    sortOrder := ← readSortOrder raw
    properties := ← entriesUnlessEmpty (← lookupOr raw ["properties"] .null)
    rule := ← readRule raw
    isActive := ← readIsActive raw }

def Section.ofValue (raw : Value) : Attempt Section := do
  let id ← mandatoryEither raw "Section" "id" "section_id"
  let name ← mandatory raw "Section" "name"
  return {
    id := id
    name := name
    parentId := ← lookupOr raw ["parentSectionId", "parent_section_id"] .null
    sortOrder := ← readSortOrder raw
    rule := ← readRule raw
    isActive := ← readIsActive raw }

/-- A `Z` stands for universal time wherever it is written. -/
def expandZone (s : String) : String :=
  String.ofList (s.toList.flatMap fun c => if c = 'Z' then "+00:00".toList else [c])

def readTime (raw : Value) : Attempt Timestamp :=
  let read := match raw with
    | .timestamp t => some t
    | .text s => Calendar.readTimestamp? (expandZone s)
    | _ => none
  match read with
  | some t => .ok t
  | none => .error (.load (.invalidTimestamp raw))

end ServiceBlueprint.Form

namespace ServiceBlueprint

def Form.ofValue (raw : Value) : Attempt Form := do
  let id ← Form.mandatoryEither raw "Form" "id" "form_id"
  let name ← Form.mandatory raw "Form" "name"
  let updatedAt ← Form.readTime (← Form.mandatoryEither raw "Form" "updatedAt" "updated_at")
  let fields ← (← Form.lookupOr raw ["fields"] (.list [])).elements
  let fields ← fields.mapM Form.Field.ofValue
  let sections ← (← Form.lookupOr raw ["sections"] (.list [])).elements
  return ⟨id, name, updatedAt, fields, ← sections.mapM Form.Section.ofValue⟩

end ServiceBlueprint
