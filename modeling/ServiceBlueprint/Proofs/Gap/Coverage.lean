import Mathlib
import ServiceBlueprint.Gap.Analysis
import ServiceBlueprint.Proofs.Attempt
import ServiceBlueprint.Proofs.Service.Fields
import ServiceBlueprint.Proofs.Value.Text

/-!
# Fields without the validation that is asked for

Coverage rules are applied to the fields of the service one after another, in the order in which
fields are listed: those of a form outside its sections, then those of each section. There is one
gap for each pair of a field and a rule that the field breaks. It is put at the field and at what
holds the field, and a fix is offered for the field where the rule has one.
-/

namespace ServiceBlueprint

namespace Gap

open Service (Place)

/-! ### Rules that a field breaks -/

section

variable {r : CoverageRule} {f : Service.Field}

/-- A value counts as set unless it is null or the empty text. -/
def isSet : Option Value → Bool
  | none => false
  | some .null => false
  | some (.text s) => s ≠ ""
  | some _ => true

theorem CoverageRule.isSatisfied_iff :
    r.isSatisfied f = true ↔
      ∃ key ∈ r.anyOf, isSet (f.validation.find? (.text key)) = true :=
  List.any_eq_true

theorem CoverageRule.appliesTo_isOk (r : CoverageRule) (htype : f.type.isText = true) :
    ∃ b, r.appliesTo f = .ok b := by
  obtain ⟨type, htype⟩ := Value.exists_eq_text htype
  rw [appliesTo, htype]
  exact ⟨_, rfl⟩

/-- A rule that applies to a field and is not satisfied by it. -/
structure CoverageRule.Broken (r : CoverageRule) (f : Service.Field) : Prop where
  applies : r.appliesTo f = .ok true
  unsatisfied : r.isSatisfied f = false

theorem CoverageRule.broken_iff :
    r.Broken f ↔ (r.appliesTo f).toOption = some true ∧ r.isSatisfied f = false := by
  have happlies : r.appliesTo f = .ok true ↔ (r.appliesTo f).toOption = some true := by
    cases r.appliesTo f <;> simp [Except.toOption]
  rw [← happlies]
  exact ⟨fun h => ⟨h.applies, h.unsatisfied⟩, fun h => ⟨h.1, h.2⟩⟩

instance : Decidable (r.Broken f) :=
  decidable_of_iff _ CoverageRule.broken_iff.symm

theorem CoverageRule.judged_eq (r : CoverageRule) (htype : f.type.isText = true) :
    (do return (← r.appliesTo f) && !r.isSatisfied f : Attempt Bool) =
      .ok (decide (r.Broken f)) := by
  obtain ⟨b, hb⟩ := r.appliesTo_isOk htype
  rw [hb]
  change Except.ok (b && !r.isSatisfied f) = _
  rw [Except.ok.injEq, Bool.eq_iff_iff, decide_eq_true_iff, broken_iff, hb]
  simp [Except.toOption]

end

/-! ### One gap for each rule that is broken -/

section

variable {o : Options} {s : Service} {gaps : List Gap} {g : Gap}

def PlacedField.ofPlace (p : Place) : PlacedField :=
  ⟨p.field, p.parentId, p.parentName⟩

theorem flatMap_placedFields (s : Service) :
    s.forms.flatMap placedFields = s.places.map .ofPlace := by
  have hform (form : Service.Form) : placedFields form = form.places.map .ofPlace := by
    simp [placedFields, Service.Form.places, List.map_flatMap, Function.comp_def,
      PlacedField.ofPlace, Place.parentId, Place.parentName]
  rw [Service.places, List.map_flatMap]
  exact congrArg (s.forms.flatMap ·) (funext hform)

theorem mem_allFields_of_placedFields {p : PlacedField} (hp : p ∈ s.forms.flatMap placedFields) :
    p.field ∈ s.allFields := by
  rw [flatMap_placedFields] at hp
  obtain ⟨place, hplace, rfl⟩ := List.mem_map.mp hp
  rw [← Service.map_field_places]
  exact List.mem_map_of_mem hplace

theorem exists_placed {f : Service.Field} (h : f ∈ s.allFields) :
    ∃ p ∈ s.forms.flatMap placedFields, p.field = f := by
  rw [← Service.map_field_places] at h
  obtain ⟨p, hp, rfl⟩ := List.mem_map.mp h
  rw [flatMap_placedFields]
  exact ⟨.ofPlace p, List.mem_map_of_mem hp, rfl⟩

/-- The fields of a service, each with the rules that it breaks in turn. -/
def brokenPairs (rules : List CoverageRule) (s : Service) : List (Place × CoverageRule) :=
  (s.places ×ˢ rules).filter fun e => e.2.Broken e.1.field

theorem mem_brokenPairs_iff {rules : List CoverageRule} {e : Place × CoverageRule} :
    e ∈ brokenPairs rules s ↔ e.1 ∈ s.places ∧ e.2 ∈ rules ∧ e.2.Broken e.1.field := by
  rw [brokenPairs, List.mem_filter, List.mem_product, decide_eq_true_iff, and_assoc]

theorem brokenPairs_eq (rules : List CoverageRule) (s : Service) :
    brokenPairs rules s = (s.places.map fun p =>
      (rules.filter fun r => r.Broken p.field).map (p, ·)).flatten := by
  rw [← List.flatMap_def]
  simp only [brokenPairs, SProd.sprod, List.product, List.filter_flatMap, List.filter_map,
    Function.comp_def]

theorem fieldGaps_eq (rules : List CoverageRule) {p : PlacedField}
    (htype : p.field.type.isText = true) :
    fieldGaps rules p = (rules.filter fun r => r.Broken p.field).mapM (coverageGap · p) := by
  have hbroken : rules.filterM (fun r => do
      return (← r.appliesTo p.field) && !r.isSatisfied p.field) =
        (Except.ok (rules.filter fun r => r.Broken p.field) : Attempt _) :=
    Attempt.filterM_of_forall fun r _ => r.judged_eq htype
  rw [fieldGaps, hbroken]
  rfl

theorem validationGaps_isOk (o : Options) (hs : s.Textual) :
    ∃ gaps, validationGaps o s = .ok gaps := by
  refine (Attempt.bind_isOk_iff fun gaps => ⟨_, rfl⟩).mpr ?_
  rw [Attempt.mapM_isOk_iff]
  intro p hp
  obtain ⟨hname, htype⟩ := hs p.field (mem_allFields_of_placedFields hp)
  obtain ⟨name, hname⟩ := Value.exists_eq_text hname
  rw [fieldGaps_eq _ htype, Attempt.mapM_isOk_iff]
  intro r _
  rw [coverageGap, hname]
  exact ⟨_, rfl⟩

/-- The gaps are those of the pairs, in order. -/
theorem forall₂_of_validationGaps (hs : s.Textual) (h : validationGaps o s = .ok gaps) :
    List.Forall₂ (fun e g => coverageGap e.2 (.ofPlace e.1) = .ok g)
      (brokenPairs o.coverageRules s) gaps := by
  obtain ⟨lists, hlists, h⟩ := Attempt.bind_eq_ok.mp h
  cases h
  have hfields : ∀ p ∈ s.places.map .ofPlace, fieldGaps o.coverageRules p =
      (o.coverageRules.filter fun r => r.Broken p.field).mapM (coverageGap · p) := by
    intro p hp
    rw [← flatMap_placedFields] at hp
    exact fieldGaps_eq _ (hs p.field (mem_allFields_of_placedFields hp)).2
  rw [flatMap_placedFields, Attempt.mapM_congr hfields, Attempt.mapM_eq_ok_iff,
    List.forall₂_map_left_iff] at hlists
  rw [brokenPairs_eq]
  apply List.rel_flatten
  rw [List.forall₂_map_left_iff]
  refine hlists.imp fun p gaps hgaps => ?_
  rw [List.forall₂_map_left_iff]
  exact Attempt.mapM_eq_ok_iff.mp hgaps

theorem mem_validationGaps_iff (hs : s.Textual) (h : validationGaps o s = .ok gaps) :
    g ∈ gaps ↔ ∃ p ∈ s.forms.flatMap placedFields, ∃ r ∈ o.coverageRules,
      r.Broken p.field ∧ coverageGap r p = .ok g := by
  have hpairs := Attempt.mapM_eq_ok_iff.mpr (forall₂_of_validationGaps hs h)
  rw [flatMap_placedFields]
  constructor
  · intro hg
    obtain ⟨e, he, hgap⟩ := Attempt.exists_of_mem_mapM hpairs hg
    obtain ⟨hp, hr, hbroken⟩ := mem_brokenPairs_iff.mp he
    exact ⟨.ofPlace e.1, List.mem_map_of_mem hp, e.2, hr, hbroken, hgap⟩
  · rintro ⟨p, hp, r, hr, hbroken, hgap⟩
    obtain ⟨place, hplace, rfl⟩ := List.mem_map.mp hp
    have he : (place, r) ∈ brokenPairs o.coverageRules s :=
      mem_brokenPairs_iff.mpr ⟨hplace, hr, hbroken⟩
    obtain ⟨g', hg', hgap'⟩ := Attempt.exists_mem_of_mapM hpairs he
    cases hgap.symm.trans hgap'
    exact hg'

theorem coverageGap_eq_ok {r : CoverageRule} {p : PlacedField} :
    coverageGap r p = .ok g → ∃ name, p.field.name = .text name ∧ g.kind = .missingValidation ∧
      g.location.id = p.field.id ∧ g.fix = coverageFix r p.field name := by
  unfold coverageGap
  split
  next name hname =>
    intro h
    cases h
    exact ⟨name, hname, rfl, rfl, rfl⟩
  next => intro h; cases h

/-- The gap of a rule that is broken at a place: a fix is offered exactly if the rule has one, and
it is for the field. -/
structure ReportsBroken (e : Place × CoverageRule) (g : Gap) : Prop where
  kind : g.kind = .missingValidation
  rule : g.rule = e.2.name
  severity : g.severity = e.2.severity
  location : g.location =
    ⟨.field, e.1.field.id, e.1.field.name, e.1.parentId, e.1.parentName⟩
  offered : g.fix.isSome = e.2.fixValidation.isSome
  fix : ∀ fix, g.fix = some fix → fix.action = .addValidation ∧
    Table.find? fix.params (.text "fieldId") = some e.1.field.id ∧
    Table.find? fix.params (.text "validation") = e.2.fixValidation.map .map

theorem reportsBroken_of_coverageGap {e : Place × CoverageRule}
    (h : coverageGap e.2 (.ofPlace e.1) = .ok g) : ReportsBroken e g := by
  unfold coverageGap at h
  split at h
  next name hname =>
    cases h
    refine ⟨rfl, rfl, rfl, rfl, Option.isSome_map, ?_⟩
    intro fix hfix
    obtain ⟨validation, hvalidation, rfl⟩ := Option.map_eq_some_iff.mp hfix
    rw [hvalidation]
    exact ⟨rfl, rfl, rfl⟩
  next => cases h

/-- There is one gap for each pair of a field and a rule that it breaks, in the order of the fields
and of the rules for each field, and it is put at the field and at what holds it. -/
theorem validationGaps_report (o : Options) (hs : s.Textual) :
    s.places.map (·.field) = s.allFields ∧ (∀ p ∈ s.places, p.IsIn s) ∧
      ∃ gaps, validationGaps o s = .ok gaps ∧
        List.Forall₂ ReportsBroken
          ((s.places ×ˢ o.coverageRules).filter fun e => e.2.Broken e.1.field) gaps := by
  obtain ⟨gaps, hgaps⟩ := validationGaps_isOk o hs
  refine ⟨Service.map_field_places s, fun p hp => Service.isIn_of_mem_places hp, gaps, hgaps, ?_⟩
  exact (forall₂_of_validationGaps hs hgaps).imp fun _ _ => reportsBroken_of_coverageGap

end

/-! ### A nursery -/

/-- A form with a field outside its sections and with one telephone number in each section, and
another form with an amount that has a bound. -/
def nursery : Service :=
  let field (id name type : String) (validation : List (Value × Value)) : Service.Field :=
    ⟨.text id, .text name, .text type, false, validation, .null⟩
  let phone := field "2" "Phone" "tel" []
  ⟨.text "n", .text "Nursery", .null,
    [⟨.text "f", .text "Place", .null, [field "1" "Child" "text" []],
        [⟨.text "s", .text "Mother", [phone]⟩, ⟨.text "t", .text "Father", [phone]⟩]⟩,
      ⟨.text "g", .text "Fee", .null, [field "3" "Amount" "number" [(.text "min", .int 0)]], []⟩],
    none⟩

/-- A rule under the name of one that comes with the library, which therefore counts for nothing,
and a rule on telephone numbers without a fix. -/
def strictOptions : Options :=
  let rule (name : String) (types : List FieldType) : CoverageRule :=
    ⟨name, "wanted", .critical, types, ["mask"], none, "", ""⟩
  { checkFields := true
    checkValidation := true
    checkWorkflow := true
    customRules := []
    customCoverageRules := [rule "phone_format" [.text, .phone], rule "mask" [.phone]]
    serviceType := .null }

theorem textual_nursery : nursery.Textual := by
  unfold Service.Textual
  decide

/-- The child lacks a length, and each telephone number, in its section, a format and a mask. -/
theorem validationGaps_report_nursery :
    nursery.Textual ∧ ∃ gaps, validationGaps strictOptions nursery = .ok gaps ∧
      gaps.map (fun g => (g.rule, g.location.id, g.location.parentId, g.fix.isSome)) =
        [("text_length", .text "1", .text "f", true), ("phone_format", .text "2", .text "s", true),
          ("mask", .text "2", .text "s", false), ("phone_format", .text "2", .text "t", true),
          ("mask", .text "2", .text "t", false)] := by
  obtain ⟨-, -, gaps, hgaps, hpairs⟩ := validationGaps_report strictOptions textual_nursery
  refine ⟨textual_nursery, gaps, hgaps, ?_⟩
  have hrun : (brokenPairs strictOptions.coverageRules nursery).map
      (fun e => (e.2.name, e.1.field.id, e.1.parentId, e.2.fixValidation.isSome)) =
        [("text_length", .text "1", .text "f", true), ("phone_format", .text "2", .text "s", true),
          ("mask", .text "2", .text "s", false), ("phone_format", .text "2", .text "t", true),
          ("mask", .text "2", .text "t", false)] := by
    decide +kernel
  rw [← hrun, ← List.forall₂_eq_eq_eq, List.forall₂_map_left_iff, List.forall₂_map_right_iff]
  refine hpairs.flip.imp fun g e h => ?_
  rw [h.rule, h.location, h.offered]

end Gap

end ServiceBlueprint
