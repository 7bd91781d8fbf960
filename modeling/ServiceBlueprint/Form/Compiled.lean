import ServiceBlueprint.Form.Layout
import ServiceBlueprint.Form.Schema
import ServiceBlueprint.Form.Visibility

/-!
# Compiled forms

A form is compiled into a data schema, a layout and the export of its visibility rules, under a
version that is the time of its last change. Only what is active has an influence.
-/

namespace ServiceBlueprint

structure CompiledForm where
  id : Value
  name : Value
  version : String
  schema : Form.Schema
  layout : Form.Layout
  rules : Form.RuleExport
  /-- The section of each field name that is placed in one. -/
  placements : Table Value Value

namespace Form

/-- A moment outside the calendar of universal time has no version. -/
def version (form : Form) : Attempt String :=
  match form.updatedAt.version? with
  | some v => .ok v
  | none => .error .outOfRange

def placements (form : Form) : Table Value Value :=
  Table.ofList ((form.activeFields.filter (·.sectionId.truthy)).map fun f => (f.name, f.sectionId))

def compile (form : Form) : Attempt CompiledForm := do
  let version ← form.version
  let schema ← Schema.build form
  let layout ← Layout.build form
  let rules ← exportRules form
  return ⟨form.id, form.name, version, schema, layout, rules, form.placements⟩

def compileEvents (form : Form) : List Log.Event :=
  .plain "service_designer.domain.forms.schema_compiler" .debug
    ("Compiling schema for form " ++ form.id.display ++ " (" ++
      toString form.activeFields.length ++ " fields)") ::
  match form.version, Schema.build form, Layout.build form with
  | .ok _, .ok _, .ok _ => exportEvents form
  | _, _, _ => []

end Form

def CompiledForm.toValue (c : CompiledForm) : Value :=
  .map [(.text "formId", c.id), (.text "formName", c.name), (.text "version", .text c.version),
    (.text "jsonSchema", c.schema.toValue), (.text "uiSchema", c.layout.toValue),
    (.text "rules", c.rules.toValue)]

end ServiceBlueprint
