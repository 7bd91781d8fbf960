import Mathlib
import ServiceBlueprint.Form.Submission
import ServiceBlueprint.Proofs.Attempt

/-!
# What is not active

Two forms with the same active fields and sections differ by inactive parts that come and go, each
at some place. Such forms are compiled into the same, under the same version, have the same rules
without a source and report the same, and with either any submission gets the same verdict: no field
or section is looked up among those that are not active.
-/

namespace ServiceBlueprint.Form

/-- The same form but for fields and sections that are not active. -/
structure SameActive (form form' : Form) : Prop where
  id : form.id = form'.id
  name : form.name = form'.name
  updatedAt : form.updatedAt = form'.updatedAt
  fields : form.fields.filter (·.isActive) = form'.fields.filter (·.isActive)
  sections : form.sections.filter (·.isActive) = form'.sections.filter (·.isActive)

/-- A field or a section that is not active comes in at some place. -/
inductive GainsInactive : Form → Form → Prop where
  | field (form : Form) (before after : List Field) (f : Field) (h : f.isActive = false) :
    GainsInactive { form with fields := before ++ after }
      { form with fields := before ++ f :: after }
  | «section» (form : Form) (before after : List Section) (s : Section) (h : s.isActive = false) :
    GainsInactive { form with sections := before ++ after }
      { form with sections := before ++ s :: after }

section

variable {form form' : Form}

/-! ### One part at a time -/

theorem GainsInactive.sameActive (h : GainsInactive form form') : SameActive form form' := by
  cases h with
  | field form before after f hf =>
    refine ⟨rfl, rfl, rfl, ?_, rfl⟩
    simp [List.filter_append, hf]
  | «section» form before after s hs =>
    refine ⟨rfl, rfl, rfl, rfl, ?_⟩
    simp [List.filter_append, hs]

/-- Elements come in one by one; those that have come in stand before those still to come. -/
theorem eqvGen_filter {α β : Type} {r : β → β → Prop} (build : List α → β) (p : α → Bool)
    (hgain : ∀ before after x, p x = false →
      r (build (before ++ after)) (build (before ++ x :: after))) (before xs : List α) :
    Relation.EqvGen r (build (before ++ xs.filter p)) (build (before ++ xs)) := by
  induction xs generalizing before with
  | nil => exact .refl _
  | cons x xs ih =>
    cases hx : p x with
    | false =>
      rw [List.filter_cons_of_neg (by simp [hx])]
      exact (ih before).trans _ _ _ (.rel _ _ (hgain before xs x hx))
    | true =>
      have hkept := ih (before ++ [x])
      rw [List.append_assoc, List.append_assoc] at hkept
      rw [List.filter_cons_of_pos hx]
      exact hkept

/-- A form without its inactive parts. -/
def cleared (form : Form) : Form :=
  { form with
    fields := form.fields.filter (·.isActive)
    sections := form.sections.filter (·.isActive) }

theorem eqvGen_cleared (form : Form) : Relation.EqvGen GainsInactive form.cleared form := by
  let bare : Form := { form with fields := form.fields.filter (·.isActive) }
  have hsections := eqvGen_filter (r := GainsInactive) (fun sections => { bare with sections })
    (·.isActive) (GainsInactive.section bare) [] form.sections
  have hfields := eqvGen_filter (r := GainsInactive) (fun fields => { form with fields })
    (·.isActive) (GainsInactive.field form) [] form.fields
  exact hsections.trans _ _ _ hfields

theorem SameActive.cleared_eq (h : SameActive form form') : form.cleared = form'.cleared := by
  unfold cleared
  rw [h.id, h.name, h.updatedAt, h.fields, h.sections]

/-- Forms have the same active parts exactly if they differ by inactive parts coming and going. -/
theorem sameActive_iff_eqvGen :
    SameActive form form' ↔ Relation.EqvGen GainsInactive form form' := by
  constructor
  · intro h
    have hback := (eqvGen_cleared form).symm
    rw [h.cleared_eq] at hback
    exact hback.trans _ _ _ (eqvGen_cleared form')
  · intro h
    induction h with
    | rel _ _ h => exact h.sameActive
    | refl _ => exact ⟨rfl, rfl, rfl, rfl, rfl⟩
    | symm _ _ _ ih =>
      exact ⟨ih.id.symm, ih.name.symm, ih.updatedAt.symm, ih.fields.symm, ih.sections.symm⟩
    | trans _ _ _ _ _ ih ih' =>
      exact ⟨ih.id.trans ih'.id, ih.name.trans ih'.name, ih.updatedAt.trans ih'.updatedAt,
        ih.fields.trans ih'.fields, ih.sections.trans ih'.sections⟩

/-! ### What is made of a form -/

namespace SameActive

variable (h : SameActive form form')

include h

theorem activeFields_eq : form.activeFields = form'.activeFields := by
  unfold activeFields
  rw [h.fields]

theorem activeSections_eq : form.activeSections = form'.activeSections := by
  unfold activeSections
  rw [h.sections]

theorem owners_eq : owners form = owners form' := by
  unfold owners
  rw [h.activeFields_eq, h.activeSections_eq]

theorem hasKeys_eq : hasKeys form = hasKeys form' := by
  unfold hasKeys
  rw [h.activeFields_eq, h.owners_eq]

theorem version_eq : form.version = form'.version := by
  unfold version
  rw [h.updatedAt]

theorem schema_eq : Schema.build form = Schema.build form' := by
  unfold Schema.build
  rw [h.activeFields_eq, h.name]

theorem layout_eq : Layout.build form = Layout.build form' := by
  unfold Layout.build
  rw [h.activeFields_eq, h.activeSections_eq]

theorem rules_eq : exportRules form = exportRules form' := by
  unfold exportRules
  rw [h.hasKeys_eq, h.activeFields_eq, h.activeSections_eq]

theorem placements_eq : form.placements = form'.placements := by
  unfold placements
  rw [h.activeFields_eq]

theorem unresolvedRules_eq : unresolvedRules form = unresolvedRules form' := by
  unfold unresolvedRules
  rw [h.hasKeys_eq, h.owners_eq, h.activeFields_eq]

theorem exportEvents_eq : exportEvents form = exportEvents form' := by
  unfold exportEvents
  rw [h.activeFields_eq, h.owners_eq]

theorem compile_eq : form.compile = form'.compile := by
  unfold compile
  rw [h.version_eq, h.schema_eq, h.layout_eq, h.rules_eq, h.id, h.name, h.placements_eq]

theorem compileEvents_eq : compileEvents form = compileEvents form' := by
  unfold compileEvents
  rw [h.id, h.activeFields_eq, h.version_eq, h.schema_eq, h.layout_eq, h.exportEvents_eq]

end SameActive

/-- Whatever is not active has no effect, wherever it stands and whatever it has in common with what
is active. -/
theorem inactive_no_effect (h : SameActive form form') :
    form.compile = form'.compile ∧ compileEvents form = compileEvents form' ∧
      unresolvedRules form = unresolvedRules form' ∧
      ∀ data, (do judge (← form.compile) data) = (do judge (← form'.compile) data) :=
  ⟨h.compile_eq, h.compileEvents_eq, h.unresolvedRules_eq, fun _ => by rw [h.compile_eq]⟩

end

/-! ### A form with remains -/

def pupil : Field :=
  ⟨.text "1", .text "pupil", .text "Pupil", "TEXT", true, .text "a", 0, [], none, true⟩

/-- The rule of this field has a source that is not there. -/
def guardian : Field :=
  ⟨.text "2", .text "guardian", .text "Guardian", "TEXT", true, .null, 1, [],
    some ⟨.text "9", "isNotEmpty", .null⟩, true⟩

def person : Section := ⟨.text "a", .text "Person", .null, 0, none, true⟩

def enrolment (fields : List Field) (sections : List Section) : Form :=
  ⟨.text "f", .text "Enrolment", ⟨⟨2024, 1, 15⟩, 10, 30, 0, 0, some 0⟩, fields, sections⟩

/-- What is left of a former form has ids and names of what is active, comes first by its order, and
has the source of the rule. -/
def remains : List Field × List Section :=
  ([⟨.text "1", .text "pupil", .text "Age", "NUMBER", true, .text "b", -1, [],
      some ⟨.text "2", "equals", .text "x"⟩, false⟩,
    ⟨.text "9", .text "guardian", .text "Adult", "CHECKBOX", true, .text "a", -2, [], none,
      false⟩],
    [⟨.text "a", .text "Former", .null, -1, some ⟨.text "9", "isEmpty", .null⟩, false⟩])

theorem inactive_no_effect_enrolment :
    let form := enrolment [pupil, guardian] [person]
    let form' := enrolment (pupil :: remains.1 ++ [guardian]) (remains.2 ++ [person])
    SameActive form form' ∧ unresolvedRules form' = .ok [(guardian.owner, .text "9")] ∧
      ∃ c v, form.compile = .ok c ∧ form'.compile = .ok c ∧
        judge c (.map [(.text "guardian", .text "Ada")]) = .ok v ∧
        v.errors.map (·.field) = [.text "pupil"] := by
  intro form form'
  have hsame : SameActive form form' := ⟨rfl, rfl, rfl, rfl, rfl⟩
  obtain ⟨hcompile, -, hunresolved, -⟩ := inactive_no_effect hsame
  have hrun : (do
      let c ← form.compile
      let v ← judge c (.map [(.text "guardian", .text "Ada")])
      return v.errors.map (·.field) : Attempt (List Value)) = .ok [.text "pupil"] := by
    cbv
  obtain ⟨c, hc, hrun⟩ := Attempt.bind_eq_ok.mp hrun
  obtain ⟨v, hv, hrun⟩ := Attempt.bind_eq_ok.mp hrun
  have hfirst : unresolvedRules form = .ok [(guardian.owner, .text "9")] := by
    cbv
  exact ⟨hsame, hunresolved ▸ hfirst, c, v, hc, hcompile ▸ hc, hv, Except.ok.inj hrun⟩

end ServiceBlueprint.Form
