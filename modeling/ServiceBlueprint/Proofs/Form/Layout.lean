import Mathlib
import ServiceBlueprint.Proofs.Form.Compilation
import ServiceBlueprint.Proofs.Sorting

/-!
# What a layout shows

A layout has a control for each active field at the top and for each one in an active section, in
the order of the fields within each group. Where names of fields and ids of sections are told apart,
it agrees with the schema field by field. A field in any other section has no control, though the
schema may require it.
-/

namespace ServiceBlueprint.Form

/-! ### All controls of a layout -/

def Element.controls : Element → List Control
  | .control c => [c]
  | .group _ controls => controls

/-- The controls of a layout from the top down, those of groups included. -/
def Layout.controls (l : Layout) : List Control :=
  l.elements.flatMap Element.controls

theorem flatMap_controls_map_control (cs : List Control) :
    (cs.map Element.control).flatMap Element.controls = cs := by
  induction cs with
  | nil => rfl
  | cons c cs ih =>
    rw [List.map_cons, List.flatMap_cons, ih, Element.controls, List.singleton_append]

/-- A section without fields has no group, and no controls. -/
theorem flatMap_controls_filterMap_group? (fields : List Field) (sections : List Section) :
    (sections.filterMap (·.group? fields)).flatMap Element.controls =
      sections.flatMap fun s => controlsIn fields s.id := by
  induction sections with
  | nil => rfl
  | cons s sections ih =>
    rw [List.filterMap_cons, List.flatMap_cons, ← ih, Section.group?]
    cases controlsIn fields s.id with
    | nil => rfl
    | cons c cs => rfl

theorem elements_of_build {form : Form} {l : Layout} (h : Layout.build form = .ok l) :
    l.elements = (controlsIn form.activeFields .null).map .control ++
      form.activeSections.filterMap (·.group? form.activeFields) := by
  unfold Layout.build at h
  split at h
  · cases h
    rfl
  · cases h

theorem controls_of_build {form : Form} {l : Layout} (h : Layout.build form = .ok l) :
    l.controls = controlsIn form.activeFields .null ++
      form.activeSections.flatMap fun s => controlsIn form.activeFields s.id := by
  rw [Layout.controls, elements_of_build h, List.flatMap_append, flatMap_controls_map_control,
    flatMap_controls_filterMap_group?]

/-! ### Which fields have a control -/

/-- A field stands at the top, or in an active section. -/
def Field.IsPlaced (f : Field) (form : Form) : Prop :=
  f.sectionId.truthy = false ∨ ∃ s ∈ form.activeSections, (f.sectionId == s.id) = true

theorem beq_null_iff {v : Value} : (v == .null) = true ↔ v = .null := by
  rw [Value.beq_iff_normal]
  cases v with
  | float x => cases h : x.toInt? <;> simp [Value.normal, Value.normalBy, h]
  | _ => simp [Value.normal, Value.normalBy, Value.truthNumber]

theorem Field.isPlaced_iff {f : Field} {form : Form} :
    f.IsPlaced form ↔ (f.placement == .null) = true ∨
      ∃ s ∈ form.activeSections, (f.placement == s.id) = true := by
  unfold Field.IsPlaced Field.placement
  by_cases ht : f.sectionId.truthy
  · have hne : ¬ (f.sectionId == .null) = true := by
      intro h
      rw [beq_null_iff.mp h] at ht
      cases ht
    simp [ht, hne]
  · simp [ht]

theorem mem_controlsIn_iff {fields : List Field} {place : Value} {ctl : Control} :
    ctl ∈ controlsIn fields place ↔
      ∃ f ∈ fields, (f.placement == place) = true ∧ f.control = ctl := by
  unfold controlsIn
  rw [List.mem_map]
  constructor
  · rintro ⟨f, hf, rfl⟩
    obtain ⟨hf, hplace⟩ := List.mem_filter.mp hf
    exact ⟨f, hf, hplace, rfl⟩
  · rintro ⟨f, hf, hplace, rfl⟩
    exact ⟨f, List.mem_filter.mpr ⟨hf, hplace⟩, rfl⟩

theorem mem_controls_iff {form : Form} {l : Layout} (h : Layout.build form = .ok l)
    {ctl : Control} :
    ctl ∈ l.controls ↔ ∃ f ∈ form.activeFields, f.IsPlaced form ∧ f.control = ctl := by
  rw [controls_of_build h, List.mem_append, List.mem_flatMap]
  simp only [mem_controlsIn_iff, Field.isPlaced_iff]
  constructor
  · rintro (⟨f, hf, htop, rfl⟩ | ⟨s, hs, f, hf, hin, rfl⟩)
    · exact ⟨f, hf, Or.inl htop, rfl⟩
    · exact ⟨f, hf, Or.inr ⟨s, hs, hin⟩, rfl⟩
  · rintro ⟨f, hf, htop | ⟨s, hs, hin⟩, rfl⟩
    · exact Or.inl ⟨f, hf, htop, rfl⟩
    · exact Or.inr ⟨s, hs, f, hf, hin, rfl⟩

/-- A control is known by the scope that is written for the name. -/
def Layout.HasControl (l : Layout) (name : Value) : Prop :=
  ∃ ctl ∈ l.controls, ctl.scope = "#/properties/" ++ name.display

theorem hasControl_iff {form : Form} {l : Layout} (h : Layout.build form = .ok l) {name : Value} :
    l.HasControl name ↔
      ∃ f ∈ form.activeFields, f.name.display = name.display ∧ f.IsPlaced form := by
  unfold Layout.HasControl
  simp only [mem_controls_iff h]
  constructor
  · rintro ⟨ctl, ⟨f, hf, hplaced, rfl⟩, hscope⟩
    exact ⟨f, hf, (String.append_right_inj _).mp hscope, hplaced⟩
  · rintro ⟨f, hf, hname, hplaced⟩
    refine ⟨f.control, ⟨f, hf, hplaced, rfl⟩, ?_⟩
    rw [Control.scope, Field.control, hname]

/-! ### Sections and names that are told apart -/

/-- Active sections have different texts for ids, none of them empty. Active fields have different
names, and stand at the top or name a section by a text. -/
structure Arranged (form : Form) : Prop where
  sectionIds : ∀ s ∈ form.activeSections, ∃ t, t ≠ "" ∧ s.id = .text t
  sectionsDiffer : form.activeSections.Pairwise fun s t => s.id ≠ t.id
  namesDiffer : form.NamesDiffer
  placed : ∀ f ∈ form.activeFields, f.sectionId = .null ∨ f.sectionId.isText = true

def Field.AtTop (f : Field) : Prop :=
  f.sectionId = .null ∨ f.sectionId = .text ""

instance : DecidablePred Field.AtTop :=
  fun f => inferInstanceAs (Decidable (f.sectionId = .null ∨ f.sectionId = .text ""))

/-- The active fields of a section, in their order. -/
def fieldsOf (form : Form) (s : Section) : List Field :=
  form.activeFields.filter (·.sectionId = s.id)

/-- Controls of the fields at the top, then a group for each active section that has fields. -/
def arrangement (form : Form) : List Element :=
  (form.activeFields.filter (·.AtTop)).map (fun f => .control f.control) ++
    (form.activeSections.filter (fieldsOf form · ≠ [])).map fun s =>
      .group s.name ((fieldsOf form s).map Field.control)

section

variable {form : Form}

theorem Arranged.placement_beq_null_iff (ha : Arranged form) {f : Field}
    (hf : f ∈ form.activeFields) : (f.placement == .null) = true ↔ f.AtTop := by
  rw [beq_null_iff, Field.placement, Field.AtTop]
  obtain hnull | htext := ha.placed f hf
  · simp [hnull]
  · obtain ⟨t, ht⟩ := Value.exists_eq_text htext
    simp [ht, Value.truthy]

theorem Arranged.placement_beq_id_iff (ha : Arranged form) {f : Field} {s : Section}
    (hs : s ∈ form.activeSections) : (f.placement == s.id) = true ↔ f.sectionId = s.id := by
  obtain ⟨t, hne, hid⟩ := ha.sectionIds s hs
  rw [hid, Value.beq_iff_eq_of_isText_right rfl, Field.placement]
  by_cases ht : f.sectionId.truthy
  · rw [if_pos ht]
  · rw [if_neg ht]
    constructor
    · intro h
      cases h
    · intro h
      rw [h] at ht
      exact absurd (decide_eq_true hne) ht

theorem Arranged.controlsIn_null (ha : Arranged form) :
    controlsIn form.activeFields .null =
      (form.activeFields.filter (·.AtTop)).map Field.control := by
  unfold controlsIn
  congr 1
  apply List.filter_congr
  intro f hf
  rw [Bool.eq_iff_iff, ha.placement_beq_null_iff hf, decide_eq_true_iff]

theorem Arranged.controlsIn_id (ha : Arranged form) {s : Section} (hs : s ∈ form.activeSections) :
    controlsIn form.activeFields s.id = (fieldsOf form s).map Field.control := by
  unfold controlsIn fieldsOf
  congr 1
  apply List.filter_congr
  intro f _
  rw [Bool.eq_iff_iff, ha.placement_beq_id_iff hs, decide_eq_true_iff]

theorem Arranged.filterMap_group? (ha : Arranged form) {sections : List Section}
    (hs : ∀ s ∈ sections, s ∈ form.activeSections) :
    sections.filterMap (·.group? form.activeFields) =
      (sections.filter (fieldsOf form · ≠ [])).map fun s =>
        .group s.name ((fieldsOf form s).map Field.control) := by
  induction sections with
  | nil => rfl
  | cons s sections ih =>
    obtain ⟨hfirst, hrest⟩ := List.forall_mem_cons.mp hs
    rw [List.filterMap_cons, List.filter_cons, ih hrest, Section.group?, ha.controlsIn_id hfirst]
    cases hfields : fieldsOf form s with
    | nil => rfl
    | cons f fs => simp [hfields]

theorem Arranged.elements_eq (ha : Arranged form) {l : Layout} (h : Layout.build form = .ok l) :
    l.elements = arrangement form := by
  rw [elements_of_build h, ha.controlsIn_null, ha.filterMap_group? fun s hs => hs, List.map_map]
  rfl

/-! ### One control for each field -/

/-- Where no two elements satisfy a test, one that does is all that is found. -/
theorem filter_eq_singleton {α : Type} {p : α → Bool} {xs : List α}
    (hxs : xs.Pairwise fun a b => ¬ (p a = true ∧ p b = true)) {x : α} (hx : x ∈ xs)
    (hp : p x = true) : xs.filter p = [x] := by
  induction xs with
  | nil => cases hx
  | cons y ys ih =>
    obtain ⟨hfirst, hrest⟩ := List.pairwise_cons.mp hxs
    rw [List.filter_cons]
    rcases List.mem_cons.mp hx with rfl | hx
    · have hnone : ys.filter p = [] := by
        rw [List.filter_eq_nil_iff]
        exact fun z hz hpz => hfirst z hz ⟨hp, hpz⟩
      rw [if_pos hp, hnone]
    · have hy : ¬ p y = true := fun hpy => hfirst x hx ⟨hpy, hp⟩
      rw [if_neg hy, ih hrest hx]

theorem NamesDiffer.filter_name_eq (hn : form.NamesDiffer) {f : Field}
    (hf : f ∈ form.activeFields) : form.activeFields.filter (·.name == f.name) = [f] := by
  have hself : (f.name == f.name) = true := BEq.rfl
  apply filter_eq_singleton _ hf hself
  apply hn.imp
  rintro g g' hgg' ⟨hg, hg'⟩
  rw [BEq.trans hg (BEq.symm hg')] at hgg'
  cases hgg'

/-- The controls of a layout that are for a given name. -/
def Layout.controlsFor (l : Layout) (name : Value) : List Control :=
  l.controls.filter (·.field == name)

theorem NamesDiffer.filter_controlsIn (hn : form.NamesDiffer) {f : Field}
    (hf : f ∈ form.activeFields) (place : Value) :
    (controlsIn form.activeFields place).filter (·.field == f.name) =
      if f.placement == place then [f.control] else [] := by
  have hname : (fun ctl : Control => ctl.field == f.name) ∘ Field.control =
      fun g : Field => g.name == f.name := rfl
  rw [controlsIn, List.filter_map, hname, List.filter_comm, hn.filter_name_eq hf,
    List.filter_cons, List.filter_nil]
  split <;> rfl

theorem flatMap_ite_eq_map_filter {α β : Type} (xs : List α) (p : α → Bool) (y : β) :
    xs.flatMap (fun x => if p x then [y] else []) = (xs.filter p).map fun _ => y := by
  induction xs with
  | nil => rfl
  | cons x xs ih =>
    rw [List.flatMap_cons, List.filter_cons, ih]
    split <;> rfl

theorem Arranged.controlsFor_eq (ha : Arranged form) {l : Layout} (h : Layout.build form = .ok l)
    {f : Field} (hf : f ∈ form.activeFields) :
    l.controlsFor f.name = (if f.AtTop then [f.control] else []) ++
      (form.activeSections.filter (fun s => f.sectionId = s.id)).map fun _ => f.control := by
  have hsections : form.activeSections.filter (fun s => f.placement == s.id) =
      form.activeSections.filter fun s => f.sectionId = s.id := by
    apply List.filter_congr
    intro s hs
    rw [Bool.eq_iff_iff, ha.placement_beq_id_iff hs, decide_eq_true_iff]
  rw [Layout.controlsFor, controls_of_build h, List.filter_append, List.filter_flatMap]
  simp only [ha.namesDiffer.filter_controlsIn hf]
  rw [flatMap_ite_eq_map_filter, hsections]
  simp only [ha.placement_beq_null_iff hf]

theorem Arranged.not_atTop (ha : Arranged form) {f : Field} {s : Section}
    (hs : s ∈ form.activeSections) (hid : f.sectionId = s.id) : ¬ f.AtTop := by
  obtain ⟨t, hne, ht⟩ := ha.sectionIds s hs
  rw [Field.AtTop, hid, ht]
  rintro (hnull | hempty)
  · cases hnull
  · exact hne (Value.text.inj hempty)

theorem Arranged.filter_section_eq (ha : Arranged form) {f : Field} {s : Section}
    (hs : s ∈ form.activeSections) (hid : f.sectionId = s.id) :
    form.activeSections.filter (fun t => f.sectionId = t.id) = [s] := by
  apply filter_eq_singleton _ hs (decide_eq_true hid)
  apply ha.sectionsDiffer.imp
  rintro t u hne ⟨ht, hu⟩
  exact hne ((of_decide_eq_true ht).symm.trans (of_decide_eq_true hu))

/-- A field has one control, unless it is in a section that is not active. -/
theorem Arranged.controlsFor_cases (ha : Arranged form) {l : Layout}
    (h : Layout.build form = .ok l) {f : Field} (hf : f ∈ form.activeFields) :
    (l.controlsFor f.name = [f.control] ∨ l.controlsFor f.name = []) ∧
      (l.controlsFor f.name = [] ↔
        ¬ f.AtTop ∧ ∀ s ∈ form.activeSections, f.sectionId ≠ s.id) := by
  rw [ha.controlsFor_eq h hf]
  by_cases hin : ∃ s ∈ form.activeSections, f.sectionId = s.id
  · obtain ⟨s, hs, hid⟩ := hin
    rw [if_neg (ha.not_atTop hs hid), ha.filter_section_eq hs hid]
    refine ⟨Or.inl rfl, ?_⟩
    constructor
    · intro h
      cases h
    · exact fun h => absurd hid (h.2 s hs)
  · have hother : ∀ s ∈ form.activeSections, f.sectionId ≠ s.id :=
      fun s hs hid => hin ⟨s, hs, hid⟩
    have hnone : form.activeSections.filter (fun s => f.sectionId = s.id) = [] := by
      rw [List.filter_eq_nil_iff]
      exact fun s hs hid => hother s hs (of_decide_eq_true hid)
    rw [hnone]
    by_cases htop : f.AtTop
    · rw [if_pos htop]
      refine ⟨Or.inl rfl, ?_⟩
      constructor
      · intro h
        cases h
      · exact fun h => absurd htop h.1
    · rw [if_neg htop]
      exact ⟨Or.inr rfl, fun _ => ⟨htop, hother⟩, fun _ => rfl⟩

/-- Schema and layout agree where sections and names are told apart. The properties are those of the
active fields, in order, and the required names are among them in that order; the layout shows the
same fields in that order, by sections. A field has one control, or none if it is in a section that
is not active. -/
theorem compile_arranges (ha : Arranged form) :
    ((∃ c, form.compile = .ok c) ↔ Compilable form) ∧
      SortedBy Field.sortOrder (form.fields.filter (·.isActive)) form.activeFields ∧
      SortedBy Section.sortOrder (form.sections.filter (·.isActive)) form.activeSections ∧
      ∀ c, form.compile = .ok c →
        c.schema.properties.keys = form.activeFields.map (·.name) ∧
        c.schema.required = (form.activeFields.filter (·.required)).map (·.name) ∧
        c.layout.elements = arrangement form ∧
        ∀ f ∈ form.activeFields,
          (c.layout.controlsFor f.name = [f.control] ∨ c.layout.controlsFor f.name = []) ∧
          (c.layout.controlsFor f.name = [] ↔
            ¬ f.AtTop ∧ ∀ s ∈ form.activeSections, f.sectionId ≠ s.id) := by
  refine ⟨compile_isOk_iff, sortedBy_mergeSort _ _, sortedBy_mergeSort _ _, ?_⟩
  intro c h
  obtain ⟨hschema, hlayout, -, -⟩ := compile_eq_ok h
  have hproperties := (build_eq_ok hschema ha.namesDiffer).2
  refine ⟨?_, required_of_build hschema, ha.elements_eq hlayout, ?_⟩
  · rw [hproperties, Table.keys, List.map_map]
    rfl
  · exact fun f hf => ha.controlsFor_cases hlayout hf

end

/-! ### A clinic -/

/-- The ward is asked for in a section that is closed, and the section of allergies is empty. -/
def clinic : Form :=
  let name : Field := ⟨.text "1", .text "name", .text "Name", "TEXT", true, .null, 1, [], none,
    true⟩
  let visit : Field := ⟨.text "2", .text "visit", .text "Visit", "TEXTAREA", false, .text "s1", 0,
    [], none, true⟩
  let ward : Field := ⟨.text "3", .text "ward", .text "Ward", "TEXT", true, .text "s2", 0, [], none,
    true⟩
  let phone : Field := ⟨.text "4", .text "phone", .text "Phone", "TEL", true, .text "s1", -1, [],
    none, true⟩
  let note : Field := ⟨.text "5", .text "note", .text "Note", "TEXT", false, .text "", 1, [], none,
    true⟩
  let allergy : Field := ⟨.text "6", .text "allergy", .text "Allergy", "TEXT", true, .text "s3", 0,
    [], none, false⟩
  let treatment : Section := ⟨.text "s1", .text "Treatment", .null, 1, none, true⟩
  let stay : Section := ⟨.text "s2", .text "Stay", .null, 0, none, false⟩
  let allergies : Section := ⟨.text "s3", .text "Allergies", .null, 0, none, true⟩
  ⟨.text "f", .text "Clinic", ⟨⟨2024, 1, 15⟩, 10, 30, 0, 0, some 0⟩,
    [name, visit, ward, phone, note, allergy], [treatment, stay, allergies]⟩

theorem activeFields_clinic :
    clinic.activeFields = [3, 1, 2, 0, 4].filterMap fun i => clinic.fields[i]? := by
  cbv

theorem activeSections_clinic :
    clinic.activeSections = [2, 0].filterMap fun i => clinic.sections[i]? := by
  cbv

theorem clinic_compiles : ∃ c, clinic.compile = .ok c :=
  ⟨_, by cbv⟩

theorem arranged_clinic : Arranged clinic := by
  constructor
  · rw [activeSections_clinic]
    intro s hs
    obtain rfl | rfl : s = _ ∨ s = _ := by simpa [clinic] using hs
    · exact ⟨"s3", by decide, rfl⟩
    · exact ⟨"s1", by decide, rfl⟩
  · rw [activeSections_clinic]
    decide
  · unfold NamesDiffer
    rw [activeFields_clinic]
    decide
  · rw [activeFields_clinic]
    decide

theorem compile_arranges_clinic :
    Arranged clinic ∧ ∃ c, clinic.compile = .ok c ∧
      c.schema.properties.keys =
        [.text "phone", .text "visit", .text "ward", .text "name", .text "note"] ∧
      c.schema.required = [.text "phone", .text "ward", .text "name"] ∧
      c.layout.elements =
        [.control ⟨.text "name", false⟩, .control ⟨.text "note", false⟩,
          .group (.text "Treatment") [⟨.text "phone", false⟩, ⟨.text "visit", true⟩]] ∧
      c.layout.controlsFor (.text "ward") = [] := by
  obtain ⟨c, hc⟩ := clinic_compiles
  obtain ⟨-, -, -, hparts⟩ := compile_arranges arranged_clinic
  obtain ⟨hkeys, hrequired, helements, hcontrols⟩ := hparts c hc
  refine ⟨arranged_clinic, c, hc, ?_, ?_, ?_, ?_⟩
  · rw [hkeys, activeFields_clinic]
    rfl
  · rw [hrequired, activeFields_clinic]
    rfl
  · rw [helements, arrangement]
    unfold fieldsOf
    rw [activeFields_clinic, activeSections_clinic]
    cbv
  · obtain ⟨ward, hward, hname, htop, hnone⟩ : ∃ f ∈ clinic.activeFields, f.name = .text "ward" ∧
        ¬ f.AtTop ∧ ∀ s ∈ clinic.activeSections, f.sectionId ≠ s.id := by
      rw [activeFields_clinic, activeSections_clinic]
      decide
    rw [← hname]
    exact (hcontrols ward hward).2.mpr ⟨htop, hnone⟩

/-! ### Required fields that are not shown -/

section

variable {form : Form} {c : CompiledForm}

/-- A required name has a control exactly if some active field so named is at the top or in an
active section. So all have one if every required field is. -/
theorem required_hasControl_iff (h : form.compile = .ok c) :
    (∀ n ∈ c.schema.required, (c.layout.HasControl n ↔
      ∃ f ∈ form.activeFields, f.name.display = n.display ∧ f.IsPlaced form)) ∧
      ((∀ f ∈ form.activeFields, f.required = true → f.IsPlaced form) →
        ∀ n ∈ c.schema.required, c.layout.HasControl n) := by
  obtain ⟨hschema, hlayout, -, -⟩ := compile_eq_ok h
  refine ⟨fun n _ => hasControl_iff hlayout, ?_⟩
  intro hplaced n hn
  rw [required_of_build hschema] at hn
  obtain ⟨f, hf, rfl⟩ := List.mem_map.mp hn
  obtain ⟨hactive, hrequired⟩ := List.mem_filter.mp hf
  exact (hasControl_iff hlayout).mpr ⟨f, hactive, rfl, hplaced f hactive hrequired⟩

end

theorem required_clinic {c : CompiledForm} (h : clinic.compile = .ok c) :
    c.schema.required = [.text "phone", .text "ward", .text "name"] := by
  rw [required_of_build (compile_eq_ok h).1, activeFields_clinic]
  rfl

theorem not_isPlaced_ward :
    ∀ f ∈ clinic.activeFields, f.name.display = "ward" → ¬ f.IsPlaced clinic := by
  unfold Field.IsPlaced
  rw [activeFields_clinic, activeSections_clinic]
  decide

theorem required_hasControl_iff_clinic : ∃ c, clinic.compile = .ok c ∧
    c.schema.required = [.text "phone", .text "ward", .text "name"] ∧
    c.layout.HasControl (.text "phone") ∧ ¬ c.layout.HasControl (.text "ward") := by
  obtain ⟨c, hc⟩ := clinic_compiles
  have hrequired := required_clinic hc
  obtain ⟨hiff, -⟩ := required_hasControl_iff hc
  rw [hrequired] at hiff
  refine ⟨c, hc, hrequired, ?_, ?_⟩
  · rw [hiff _ List.mem_cons_self]
    unfold Field.IsPlaced
    rw [activeFields_clinic, activeSections_clinic]
    decide
  · rw [hiff _ (List.mem_cons_of_mem _ List.mem_cons_self)]
    rintro ⟨f, hf, hname, hplaced⟩
    exact not_isPlaced_ward f hf hname hplaced

/-- The ward is required and has no control. -/
theorem not_hasControl_ward :
    ¬ ∀ (form : Form) (c : CompiledForm), form.compile = .ok c →
      ∀ n ∈ c.schema.required, c.layout.HasControl n := by
  intro h
  obtain ⟨c, hc⟩ := clinic_compiles
  have hward : Value.text "ward" ∈ c.schema.required := by
    rw [required_clinic hc]
    exact List.mem_cons_of_mem _ List.mem_cons_self
  obtain ⟨f, hf, hname, hplaced⟩ :=
    (hasControl_iff (compile_eq_ok hc).2.1).mp (h clinic c hc _ hward)
  exact not_isPlaced_ward f hf hname hplaced

end ServiceBlueprint.Form
