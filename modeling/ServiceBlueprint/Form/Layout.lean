import ServiceBlueprint.Form.Model

/-!
# The layout of a form

Fields at the top come first, each with its own control; then one group per active section that
has fields. A field in a section that is not active has no control.
-/

namespace ServiceBlueprint.Form

/-- The control of a field, which is known by name. -/
structure Control where
  field : Value
  multiline : Bool

def Control.scope (c : Control) : String :=
  "#/properties/" ++ c.field.display

inductive Element where
  | control (c : Control)
  | group (label : Value) (controls : List Control)

structure Layout where
  elements : List Element

def Field.control (f : Field) : Control :=
  ⟨f.name, f.type? = some .textArea⟩

/-- The controls of the fields placed in a section, or at the top. -/
def controlsIn (fields : List Field) (place : Value) : List Control :=
  (fields.filter (·.placement == place)).map Field.control

def Section.group? (s : Section) (fields : List Field) : Option Element :=
  match controlsIn fields s.id with
  | [] => none
  | controls => some (.group s.name controls)

/-- Sections are told apart by id, which has to be a key. -/
def Layout.build (form : Form) : Attempt Layout :=
  if form.activeFields.all (·.placement.isKey) && form.activeSections.all (·.id.isKey) then
    .ok ⟨(controlsIn form.activeFields .null).map .control ++
      form.activeSections.filterMap (·.group? form.activeFields)⟩
  else .error .wrongType

def Control.toValue (c : Control) : Value :=
  .map ([(.text "type", .text "Control"), (.text "scope", .text c.scope)] ++
    if c.multiline then [(.text "options", .map [(.text "multi", .bool true)])] else [])

def Element.toValue : Element → Value
  | .control c => c.toValue
  | .group label controls =>
    .map [(.text "type", .text "Group"), (.text "label", label),
      (.text "elements", .list (controls.map Control.toValue))]

def Layout.toValue (l : Layout) : Value :=
  .map [(.text "type", .text "VerticalLayout"),
    (.text "elements", .list (l.elements.map Element.toValue))]

end ServiceBlueprint.Form
