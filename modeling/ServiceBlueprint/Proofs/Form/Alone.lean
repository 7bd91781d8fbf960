import ServiceBlueprint.Proofs.Form.Verdict

/-!
# Forms of one field

In a form whose one active field is always shown, a submission of just the value of that field is
judged by the property of the field alone: there are errors exactly if the field does not admit the
value. Nothing is asked of titles and texts, which take no part.
-/

namespace ServiceBlueprint.Form

/-- The only active field of a form, shown whatever its value is: it has no rule, and neither has an
active section that it stands in. -/
structure StandsAlone (form : Form) (f : Field) : Prop where
  fields : form.activeFields = [f]
  rule : f.rule = none
  sections : ∀ s ∈ form.activeSections, (s.id == f.sectionId) = true → s.rule = none

/-- Bounds, patterns and whatever else the type of a field brings about can be applied. -/
def Field.WellConstrained (f : Field) : Prop :=
  ∀ ks, f.constraints = .ok ks → ∀ k ∈ ks, k.isWellTyped = true ∧ k.checkPattern = .ok ()

/-- Only constraints can fail on a value. -/
theorem Field.findsUnless_of_schema {f : Field} {p : Property} (h : f.schema = .ok p)
    (hw : f.WellConstrained) (v : Value) : ∀ k ∈ p, FindsUnless (k.violation? v) (k.Admits v) := by
  obtain ⟨ks, hks, hall⟩ :=
    Field.forall_mem_schema_iff h fun k => FindsUnless (k.violation? v) (k.Admits v)
  have hconstraints : ∀ k ∈ ks, FindsUnless (k.violation? v) (k.Admits v) := by
    intro k hk
    obtain ⟨htyped, hcheck⟩ := hw ks hks k hk
    exact Keyword.findsUnless htyped hcheck v
  exact hall.mpr ⟨findsUnless_type _ v, findsUnless_none trivial,
    fun _ => findsUnless_none trivial, hconstraints, Or.inr (findsUnless_none trivial)⟩

theorem without_nil {α : Type} (t : Table Value α) : without [] t = t := by
  unfold without
  exact List.filter_eq_self.mpr fun _ _ => rfl

section

variable {form : Form} {f : Field} {c : CompiledForm}

theorem StandsAlone.mem (ha : form.StandsAlone f) : f ∈ form.activeFields := by
  rw [ha.fields]
  exact List.mem_singleton_self f

theorem StandsAlone.compiled (ha : form.StandsAlone f) (h : form.compile = .ok c) :
    Compiled form c := by
  apply compiled_of_namesDiffer h
  rw [NamesDiffer, ha.fields]
  exact List.pairwise_singleton _ _

/-! ### What is hidden -/

theorem StandsAlone.failing_field (ha : form.StandsAlone f) (hc : Compiled form c) (facts : Facts) :
    failing c .field facts = [] := by
  unfold failing
  rw [hc.rules_eq, ownersOf, ha.fields, List.map_singleton, List.filterMap_cons_none,
    List.filterMap_nil, List.filter_nil]
  unfold Owner.exported?
  rw [Field.owner, ha.rule]
  rfl

/-- A section with a failing rule is not the one that the field stands in. -/
theorem StandsAlone.contains_sectionId (ha : form.StandsAlone f) (hc : Compiled form c)
    (facts : Facts) :
    ((failing c .section facts).map (·.targetId)).contains f.sectionId = false := by
  rw [← Bool.not_eq_true, List.contains_iff_exists_mem_beq]
  rintro ⟨id, hid, hsame⟩
  obtain ⟨r, hr, rfl⟩ := List.mem_map.mp hid
  obtain ⟨o, ho, hr⟩ := hc.mem_rules (List.mem_of_mem_filter hr)
  obtain ⟨rule, hrule, condition, -, rfl⟩ := exported?_eq_some_iff.mp hr
  obtain ⟨s, hs, rfl⟩ := List.mem_map.mp ho
  have hnone : s.owner.rule = none := ha.sections s hs (BEq.symm hsame)
  rw [hrule] at hnone
  cases hnone

theorem StandsAlone.hiddenFields_eq (ha : form.StandsAlone f) (h : form.compile = .ok c)
    (facts : Facts) : hiddenFields c (.map facts) = .ok [] := by
  have hc := ha.compiled h
  have hkeys := (compile_isOk_iff.mp ⟨c, h⟩).names
  have hnames : c.rules.hiddenNames .field (.map facts) = .ok [] := by
    unfold RuleExport.hiddenNames
    rw [hc.hiding_eq_ok hkeys, ha.failing_field hc]
    rfl
  have hplaced : namesPlacedIn c (distinct ((failing c .section facts).map (·.targetId))) = [] := by
    rw [List.eq_nil_iff_forall_not_mem]
    intro v hv
    obtain ⟨g, hg, -, -, hin⟩ := hc.mem_namesPlacedIn.mp hv
    rw [ha.fields, List.mem_singleton] at hg
    rw [hg, distinct, contains_foldl_addUnlessThere, ha.contains_sectionId hc] at hin
    simp at hin
  unfold hiddenFields
  rw [hnames, hc.hiddenIds_eq_ok hkeys]
  change Value.sorted (distinct ([] ++ namesPlacedIn c _)) = _
  rw [hplaced]
  rfl

/-! ### What is reported -/

theorem find?_only (name v : Value) : Table.find? [(name, v)] name = some v := by
  rw [Table.find?_cons, if_pos BEq.rfl]

theorem StandsAlone.valueErrors_eq (ha : form.StandsAlone f) (hc : Compiled form c) {v : Value}
    {found : List Violation} (hfound : violations f.ownProperty v = .ok found) :
    valueErrors c.schema.properties [(f.name, v)] =
      .ok (found.map fun violation => ⟨.text f.name.display, violation⟩) := by
  unfold valueErrors
  rw [hc.properties, ha.fields, List.map_singleton, List.mapM_cons, List.mapM_nil]
  simp only [find?_only, hfound]
  exact congrArg Except.ok (List.append_nil _)

/-- The name of the field has a value. -/
theorem StandsAlone.requiredErrors_eq (ha : form.StandsAlone f) (hc : Compiled form c) (v : Value) :
    requiredErrors c.schema.required [(f.name, v)] = [] := by
  have hnone : missingNames c.schema.required [(f.name, v)] = [] := by
    apply List.filter_eq_nil_iff.mpr
    intro n hn
    rw [hc.required, ha.fields] at hn
    obtain ⟨g, hg, rfl⟩ := List.mem_map.mp hn
    rw [List.mem_singleton.mp (List.mem_of_mem_filter hg), Table.hasKey, find?_only]
    exact Bool.false_ne_true
  unfold requiredErrors
  rw [hnone]
  rfl

/-- There are errors in the verdict exactly if there are violations. -/
theorem StandsAlone.judge_eq_ok (ha : form.StandsAlone f) (h : form.compile = .ok c) {v : Value}
    {found : List Violation} (hfound : violations f.ownProperty v = .ok found) :
    ∃ verdict, judge c (.map [(f.name, v)]) = .ok verdict ∧ (verdict.errors = [] ↔ found = []) := by
  have hc := ha.compiled h
  have htexts : ∀ e ∈ found.map (SubmissionError.mk (.text f.name.display)),
      e.field.isText = true :=
    List.forall_mem_map.mpr fun _ _ => rfl
  obtain ⟨errors, hsorted⟩ := sortErrors_eq_ok htexts
  have hlength := (perm_of_sortErrors hsorted).length_eq
  refine ⟨⟨errors, []⟩, ?_, ?_⟩
  · have hall : (c.schema.required.filter fun n => !([] : List Value).contains n) =
        c.schema.required := List.filter_eq_self.mpr fun _ _ => rfl
    unfold judge
    rw [ha.hiddenFields_eq h]
    apply Attempt.bind_eq_ok.mpr
    refine ⟨[], rfl, Attempt.bind_eq_ok.mpr ⟨[(f.name, v)], rfl, ?_⟩⟩
    simp only [without_nil, hall, ha.valueErrors_eq hc hfound, ha.requiredErrors_eq hc]
    apply Attempt.bind_eq_ok.mpr
    refine ⟨_, rfl, Attempt.bind_eq_ok.mpr ⟨errors, ?_, rfl⟩⟩
    rw [List.append_nil, hsorted]
  · rw [← List.length_eq_zero_iff, hlength, List.length_map, List.length_eq_zero_iff]

/-- Where the constraints of the field can be applied, every value gets a verdict, with errors
exactly if the field does not admit it. -/
theorem StandsAlone.judge_errors_iff (ha : form.StandsAlone f) (h : form.compile = .ok c)
    (hw : f.WellConstrained) (v : Value) :
    ∃ verdict, judge c (.map [(f.name, v)]) = .ok verdict ∧
      (verdict.errors = [] ↔ f.Admissible v) := by
  have hschema := (ha.compiled h).schemas f ha.mem
  obtain ⟨found, hfound, hnone⟩ :=
    violations_of_findsUnless (Field.findsUnless_of_schema hschema hw v)
  obtain ⟨verdict, hverdict, herrors⟩ := ha.judge_eq_ok h hfound
  exact ⟨verdict, hverdict, herrors.trans (hnone.trans (Field.admits_iff hschema v))⟩

end

/-! ### A poll -/

/-- A question that need not be answered. -/
def question (typeName : String) (properties : Facts) : Field :=
  ⟨.text "1", .text "answer", .text "Answer", typeName, false, .null, 0, properties, none, true⟩

def pollTime : Timestamp :=
  ⟨⟨2024, 1, 15⟩, 10, 30, 0, 0, some 0⟩

/-- A form that puts one question. -/
def poll (f : Field) : Form :=
  ⟨.text "f", .text "Poll", pollTime, [f], []⟩

theorem activeSections_poll (f : Field) : (poll f).activeSections = [] :=
  List.mergeSort_nil

theorem standsAlone_poll (typeName : String) (properties : Facts) :
    (poll (question typeName properties)).StandsAlone (question typeName properties) where
  fields := List.mergeSort_singleton _
  rule := rfl
  sections := by
    rw [activeSections_poll]
    exact fun s hs => absurd hs List.not_mem_nil

theorem poll_compiles {typeName : String} {properties : Facts}
    (h : (question typeName properties).OptionsValued) :
    ∃ c, (poll (question typeName properties)).compile = .ok c := by
  have hfields := (standsAlone_poll typeName properties).fields
  have howners : owners (poll (question typeName properties)) =
      [(question typeName properties).owner] := by
    rw [owners, hfields, activeSections_poll]
    rfl
  apply compile_isOk_iff.mpr
  constructor
  case version => exact (by decide : pollTime.version?.isSome = true)
  case options => rwa [hfields, List.forall_mem_singleton]
  case sectionIds =>
    rw [activeSections_poll]
    exact fun s hs => absurd hs List.not_mem_nil
  case sources =>
    rw [howners, List.forall_mem_singleton]
    exact nofun
  all_goals
    rw [hfields, List.forall_mem_singleton]
    rfl

/-- Compiling a poll and judging an answer tells whether there are errors. -/
theorem poll_judge_of_run {f : Field} {v : Value} {valid : Bool} (hrun : (do
      let c ← (poll f).compile
      let verdict ← judge c (.map [(f.name, v)])
      return verdict.valid : Attempt Bool) = .ok valid) :
    ∃ c verdict, (poll f).compile = .ok c ∧ judge c (.map [(f.name, v)]) = .ok verdict ∧
      (verdict.errors = [] ↔ valid = true) := by
  obtain ⟨c, hcompile, hrun⟩ := Attempt.bind_eq_ok.mp hrun
  obtain ⟨verdict, hverdict, hrun⟩ := Attempt.bind_eq_ok.mp hrun
  refine ⟨c, verdict, hcompile, hverdict, ?_⟩
  rw [← Except.ok.inj hrun, Verdict.valid, List.isEmpty_iff]

end ServiceBlueprint.Form
