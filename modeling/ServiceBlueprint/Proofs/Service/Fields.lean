import Mathlib.Data.List.Forall2
import ServiceBlueprint.Service.Model

/-!
# The fields of a service

Each field of a service has its place: in a form, and there in a section or outside of them. As a
service grows, fields come into its forms and sections, sections into its forms, and forms behind
the others, but no field goes and none changes its place among the rest.
-/

namespace ServiceBlueprint

/-- The names and types of all fields are texts. -/
def Service.Textual (s : Service) : Prop :=
  ∀ f ∈ s.allFields, f.name.isText = true ∧ f.type.isText = true

namespace Service

variable {s s' : Service}

/-! ### Places -/

/-- A field of a form, with the section that holds it if one does. -/
structure Place where
  form : Form
  sec : Option Section
  field : Field

def Place.parentId (p : Place) : Value :=
  p.sec.elim p.form.id (·.id)

def Place.parentName (p : Place) : Value :=
  p.sec.elim p.form.name (·.name)

/-- The form is one of the service, and the section, or else the form itself, has the field. -/
structure Place.IsIn (p : Place) (s : Service) : Prop where
  form : p.form ∈ s.forms
  sec : ∀ sec, p.sec = some sec → sec ∈ p.form.sections
  field : p.field ∈ p.sec.elim p.form.fields (·.fields)

def Form.places (form : Form) : List Place :=
  form.fields.map (⟨form, none, ·⟩) ++
    form.sections.flatMap fun sec => sec.fields.map (⟨form, some sec, ·⟩)

def places (s : Service) : List Place :=
  s.forms.flatMap (·.places)

/-- Every field has one place, in the order of the list of fields. -/
theorem map_field_places (s : Service) : s.places.map (·.field) = s.allFields := by
  have hform (form : Form) : form.places.map (·.field) = form.allFields := by
    simp [Form.places, Form.allFields, List.map_flatMap, Function.comp_def]
  simp only [places, allFields, List.map_flatMap, hform]

theorem isIn_of_mem_places {p : Place} (h : p ∈ s.places) : p.IsIn s := by
  obtain ⟨form, hform, hp⟩ := List.mem_flatMap.mp h
  obtain hp | hp := List.mem_append.mp hp
  · obtain ⟨f, hf, rfl⟩ := List.mem_map.mp hp
    exact ⟨hform, fun sec hsec => (by cases hsec), hf⟩
  · obtain ⟨sec, hsec, hp⟩ := List.mem_flatMap.mp hp
    obtain ⟨f, hf, rfl⟩ := List.mem_map.mp hp
    refine ⟨hform, fun sec' hsec' => ?_, hf⟩
    cases hsec'
    exact hsec

/-! ### Growth -/

/-- Fields come into the form and its sections, and sections into the form. What else a section has
does not matter. -/
structure Form.GrowsTo (form form' : Form) : Prop where
  id : form'.id = form.id
  name : form'.name = form.name
  fields : form.fields.Sublist form'.fields
  sections : List.SublistForall₂ (fun sec sec' : Section => sec.fields.Sublist sec'.fields)
    form.sections form'.sections

/-- The forms grow, each in its place, and others come behind. -/
structure GrowsTo (s s' : Service) : Prop where
  forms : List.Forall₂ Form.GrowsTo s.forms (s'.forms.take s.forms.length)

theorem flatMap_sublist {α β : Type} {f : α → List β} {xs ys : List α}
    (h : List.SublistForall₂ (fun x y => (f x).Sublist (f y)) xs ys) :
    (xs.flatMap f).Sublist (ys.flatMap f) := by
  induction h with
  | nil => exact List.nil_sublist _
  | cons hxy _ ih =>
    rw [List.flatMap_cons, List.flatMap_cons]
    exact hxy.append ih
  | cons_right _ ih =>
    rw [List.flatMap_cons]
    exact ih.trans (List.sublist_append_right _ _)

theorem Form.GrowsTo.allFields_sublist {form form' : Form} (h : form.GrowsTo form') :
    form.allFields.Sublist form'.allFields :=
  h.fields.append (flatMap_sublist h.sections)

theorem GrowsTo.allFields_sublist (h : s.GrowsTo s') : s.allFields.Sublist s'.allFields := by
  apply flatMap_sublist
  rw [List.sublistForall₂_iff]
  exact ⟨_, h.forms.imp fun _ _ hform => hform.allFields_sublist, List.take_sublist _ _⟩

theorem GrowsTo.textual (h : s.GrowsTo s') (hs' : s'.Textual) : s.Textual :=
  fun f hf => hs' f (h.allFields_sublist.subset hf)

theorem GrowsTo.exists_first (h : s.GrowsTo s') {first : Form} {rest : List Form}
    (hforms : s.forms = first :: rest) :
    ∃ first' rest', s'.forms = first' :: rest' ∧ first.GrowsTo first' := by
  have hgrown := h.forms
  rw [hforms, List.length_cons] at hgrown
  cases hforms' : s'.forms with
  | nil =>
    rw [hforms', List.take_nil] at hgrown
    cases hgrown
  | cons first' rest' =>
    rw [hforms', List.take_succ_cons, List.forall₂_cons] at hgrown
    exact ⟨first', rest', rfl, hgrown.1⟩

end Service

end ServiceBlueprint
