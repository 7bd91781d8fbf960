import ServiceBlueprint.Form.Submission
import ServiceBlueprint.Proofs.Form.Compilation
import ServiceBlueprint.Proofs.Form.Conditions

/-!
# The hidden fields of a submission

For every compiled form with textual names the hidden fields are found, and they are texts in
ascending order without repeats. `Field.HiddenBy` says which they are in terms of the stored rules:
a field is hidden when its own rule, or the rule of an active section it stands in, fails.
-/

namespace ServiceBlueprint.Form

/-! ### Lists of texts without repeats -/

theorem mem_distinct {vs : List Value} (h : ∀ v ∈ vs, v.isText = true) {v : Value} :
    v ∈ distinct vs ↔ v ∈ vs := by
  rw [distinct, mem_foldl_addUnlessThere fun w hw => Value.isolated_of_isText (h w hw)]
  simp

/-- Texts are put in ascending order, each once. -/
theorem sorted_distinct {vs : List Value} (h : ∀ v ∈ vs, v.isText = true) :
    ∃ names : List String, Value.sorted (distinct vs) = .ok (names.map .text) ∧
      names.Pairwise (· < ·) ∧ ∀ n, n ∈ names ↔ Value.text n ∈ vs := by
  obtain ⟨ss, hss⟩ := Value.exists_eq_map_text fun v hv => h v ((mem_distinct h).mp hv)
  have hnodup : (ss.map Value.text).Nodup :=
    hss ▸ nodup_foldl_addUnlessThere (fun v hv => Value.isolated_of_isText (h v hv)) List.nodup_nil
  refine ⟨_, hss ▸ Value.sorted_map_text ss, Value.pairwise_lt_mergeSort hnodup.of_map, ?_⟩
  intro n
  rw [List.mem_mergeSort, ← mem_distinct h, hss]
  simp

/-! ### Rules that fail -/

/-- The ids of active fields are texts, and no two are equal. -/
structure DistinctIds (form : Form) : Prop where
  texts : ∀ f ∈ form.activeFields, f.id.isText = true
  nodup : (form.activeFields.map (·.id)).Nodup

/-- The operator is known, the source is an active field, and the value there compares otherwise
than asked. -/
def VisibilityRule.Fails (rule : VisibilityRule) (form : Form) (facts : Facts) : Prop :=
  ∃ op, rule.operator? = some op ∧ ∃ source ∈ form.activeFields, source.id = rule.source ∧
    ¬ op.Means (facts.valueAt source.name) rule.value

def Owner.Fails (o : Owner) (form : Form) (facts : Facts) : Prop :=
  ∃ rule, o.rule = some rule ∧ rule.Fails form facts

/-- Its own rule fails, or that of an active section it stands in. -/
def Field.HiddenBy (f : Field) (form : Form) (facts : Facts) : Prop :=
  f.owner.Fails form facts ∨
    ∃ s ∈ form.activeSections, s.id = f.sectionId ∧ s.id ≠ .text "" ∧ s.owner.Fails form facts

theorem fieldById?_mem {fields : List Field} {id : Value} {f : Field}
    (h : fieldById? fields id = some f) : f ∈ fields ∧ (f.id == id) = true := by
  have hid := List.find?_some h
  exact ⟨List.mem_reverse.mp (List.mem_of_find?_eq_some h), hid⟩

theorem fieldById?_eq_some_iff {form : Form} (hi : form.DistinctIds) {id : Value} {f : Field} :
    fieldById? form.activeFields id = some f ↔ f ∈ form.activeFields ∧ f.id = id := by
  constructor
  · intro h
    obtain ⟨hf, hid⟩ := fieldById?_mem h
    exact ⟨hf, (Value.beq_iff_eq_of_isText (hi.texts f hf)).mp hid⟩
  · rintro ⟨hf, rfl⟩
    cases hfind : fieldById? form.activeFields f.id with
    | none =>
      have hnone := List.find?_eq_none.mp hfind f (List.mem_reverse.mpr hf)
      exact absurd BEq.rfl hnone
    | some g =>
      obtain ⟨hg, hid⟩ := fieldById?_mem hfind
      have heq := (Value.beq_iff_eq_of_isText (hi.texts g hg)).mp hid
      rw [List.inj_on_of_nodup_map hi.nodup hg hf heq]

theorem exported?_eq_some_iff {o : Owner} {fields : List Field} {r : ExportedRule} :
    o.exported? fields = some r ↔ ∃ rule, o.rule = some rule ∧
      ∃ condition, rule.condition? fields = some condition ∧ ⟨o.id, o.name, condition⟩ = r := by
  unfold Owner.exported?
  simp only [Option.bind_eq_bind, Option.bind_eq_some_iff, Option.pure_def, Option.some.injEq]

theorem condition?_eq_some_iff {rule : VisibilityRule} {fields : List Field} {c : Condition} :
    rule.condition? fields = some c ↔
      ∃ source, fieldById? fields rule.source = some source ∧ ∃ op, rule.operator? = some op ∧
        ⟨source.name, op.exported, if op.testsEmptiness then .text "" else rule.value⟩ = c := by
  unfold VisibilityRule.condition?
  simp only [Option.bind_eq_bind, Option.bind_eq_some_iff, Option.pure_def, Option.some.injEq]

/-- A rule fails exactly when it is exported and its condition does not hold. -/
theorem VisibilityRule.fails_iff {form : Form} (hi : form.DistinctIds) {rule : VisibilityRule}
    {facts : Facts} :
    rule.Fails form facts ↔ ∃ condition, rule.condition? form.activeFields = some condition ∧
      condition.holds facts = false := by
  constructor
  · rintro ⟨op, hop, source, hsource, hid, hfails⟩
    rw [← compares_exported_iff, Bool.not_eq_true] at hfails
    refine ⟨_, condition?_eq_some_iff.mpr ⟨source, ?_, op, hop, rfl⟩, hfails⟩
    exact (fieldById?_eq_some_iff hi).mpr ⟨hsource, hid⟩
  · rintro ⟨condition, hcondition, hfails⟩
    obtain ⟨source, hfind, op, hop, rfl⟩ := condition?_eq_some_iff.mp hcondition
    obtain ⟨hsource, hid⟩ := (fieldById?_eq_some_iff hi).mp hfind
    refine ⟨op, hop, source, hsource, hid, ?_⟩
    rw [← compares_exported_iff, Bool.not_eq_true]
    exact hfails

/-! ### What the exported rules hide -/

/-- The active fields or sections as owners of rules. -/
def ownersOf (form : Form) : TargetKind → List Owner
  | .field => form.activeFields.map Field.owner
  | .section => form.activeSections.map Section.owner

/-- The exported rules of one kind whose conditions fail. -/
def failing (c : CompiledForm) (kind : TargetKind) (facts : Facts) : List ExportedRule :=
  (c.rules.rules kind).filter fun r => !r.condition.holds facts

section

variable {form : Form} {c : CompiledForm} {kind : TargetKind} {facts : Facts}

theorem rules_eq_filterMap {e : RuleExport}
    (hfields : e.fields = form.activeFields.filterMap (·.owner.exported? form.activeFields))
    (hsections : e.sections = form.activeSections.filterMap (·.owner.exported? form.activeFields)) :
    e.rules kind = (ownersOf form kind).filterMap (·.exported? form.activeFields) := by
  cases kind with
  | field =>
    rw [RuleExport.rules, hfields, ownersOf, List.filterMap_map]
    rfl
  | «section» =>
    rw [RuleExport.rules, hsections, ownersOf, List.filterMap_map]
    rfl

theorem Assembled.rules_eq (hc : Assembled form c) :
    c.rules.rules kind = (ownersOf form kind).filterMap (·.exported? form.activeFields) :=
  rules_eq_filterMap hc.fieldRules hc.sectionRules

theorem Assembled.mem_rules (hc : Assembled form c) {r : ExportedRule}
    (hr : r ∈ c.rules.rules kind) :
    ∃ o ∈ ownersOf form kind, o.exported? form.activeFields = some r :=
  List.mem_filterMap.mp (hc.rules_eq ▸ hr)

/-- The targets of failing rules are the owners whose stored rules fail. -/
theorem Compiled.exists_failing_iff (hc : Compiled form c) (hi : form.DistinctIds)
    {p : Value → Value → Prop} :
    (∃ r ∈ failing c kind facts, p r.targetId r.targetName) ↔
      ∃ o ∈ ownersOf form kind, o.Fails form facts ∧ p o.id o.name := by
  unfold failing
  rw [hc.rules_eq]
  constructor
  · rintro ⟨r, hr, hp⟩
    obtain ⟨hr, hfails⟩ := List.mem_filter.mp hr
    obtain ⟨o, ho, hr⟩ := List.mem_filterMap.mp hr
    obtain ⟨rule, hrule, condition, hcondition, rfl⟩ := exported?_eq_some_iff.mp hr
    rw [Bool.not_eq_true'] at hfails
    have hrulefails := (VisibilityRule.fails_iff hi).mpr ⟨condition, hcondition, hfails⟩
    exact ⟨o, ho, ⟨rule, hrule, hrulefails⟩, hp⟩
  · rintro ⟨o, ho, ⟨rule, hrule, hfails⟩, hp⟩
    obtain ⟨condition, hcondition, hfails⟩ := (VisibilityRule.fails_iff hi).mp hfails
    refine ⟨⟨o.id, o.name, condition⟩, List.mem_filter.mpr ⟨?_, ?_⟩, hp⟩
    · apply List.mem_filterMap.mpr
      exact ⟨o, ho, exported?_eq_some_iff.mpr ⟨rule, hrule, condition, hcondition, rfl⟩⟩
    · rw [Bool.not_eq_true']
      exact hfails

/-- Exported rules ask for the values of active fields. -/
theorem Assembled.exists_source (hc : Assembled form c) {r : ExportedRule}
    (hr : r ∈ c.rules.rules kind) : ∃ f ∈ form.activeFields, f.name = r.condition.fact := by
  obtain ⟨o, -, ho⟩ := hc.mem_rules hr
  obtain ⟨rule, -, condition, hcondition, rfl⟩ := exported?_eq_some_iff.mp ho
  obtain ⟨source, hsource, op, -, rfl⟩ := condition?_eq_some_iff.mp hcondition
  exact ⟨source, (fieldById?_mem hsource).1, rfl⟩

theorem Compiled.isText_fact (hc : Compiled form c) (hn : form.DistinctNames) {r : ExportedRule}
    (hr : r ∈ c.rules.rules kind) : r.condition.fact.isText = true := by
  obtain ⟨f, hf, hname⟩ := hc.exists_source hr
  exact hname ▸ hn.texts f hf

theorem Assembled.hiding_eq_ok (hc : Assembled form c)
    (hk : ∀ f ∈ form.activeFields, f.name.isKey = true) :
    c.rules.hiding kind (.map facts) = .ok (failing c kind facts) := by
  apply Attempt.filterM_of_forall
  intro r hr
  obtain ⟨f, hf, hname⟩ := hc.exists_source hr
  unfold ExportedRule.hides
  rw [← hname, Value.asKey_eq_ok_iff.mpr ⟨hk f hf, rfl⟩]
  rfl

/-- The names of fields whose own rules fail, whatever the ids are. -/
theorem Assembled.isText_targetName (hc : Assembled form c) (ht : form.TextNames) :
    ∀ v ∈ (failing c .field facts).map (·.targetName), v.isText = true := by
  intro v hv
  obtain ⟨r, hr, rfl⟩ := List.mem_map.mp hv
  obtain ⟨o, ho, hr⟩ := hc.mem_rules (List.mem_of_mem_filter hr)
  obtain ⟨rule, -, condition, -, rfl⟩ := exported?_eq_some_iff.mp hr
  obtain ⟨f, hf, rfl⟩ := List.mem_map.mp ho
  exact ht f hf

theorem Assembled.hiddenNames_eq_ok (hc : Assembled form c) (ht : form.TextNames) :
    c.rules.hiddenNames .field (.map facts) =
      .ok (distinct ((failing c .field facts).map (·.targetName))) := by
  have hnames : ((failing c .field facts).mapM fun r => r.targetName.asKey) =
      .ok ((failing c .field facts).map (·.targetName)) := by
    apply Attempt.mapM_of_forall
    intro r hr
    exact Value.asKey_of_isText (hc.isText_targetName ht _ (List.mem_map_of_mem hr))
  unfold RuleExport.hiddenNames
  rw [hc.hiding_eq_ok ht.keys]
  apply Attempt.bind_eq_ok.mpr
  exact ⟨_, rfl, Attempt.bind_eq_ok.mpr ⟨_, hnames, rfl⟩⟩

theorem Assembled.hiddenIds_eq_ok (hc : Assembled form c)
    (hk : ∀ f ∈ form.activeFields, f.name.isKey = true) :
    c.rules.hiddenIds .section (.map facts) =
      .ok (distinct ((failing c .section facts).map (·.targetId))) := by
  have hids : ((failing c .section facts).mapM fun r => r.targetId.asKey) =
      .ok ((failing c .section facts).map (·.targetId)) := by
    apply Attempt.mapM_of_forall
    intro r hr
    obtain ⟨o, ho, hr⟩ := hc.mem_rules (List.mem_of_mem_filter hr)
    obtain ⟨rule, -, condition, -, rfl⟩ := exported?_eq_some_iff.mp hr
    obtain ⟨s, hs, rfl⟩ := List.mem_map.mp ho
    exact if_pos (hc.sectionKeys s hs)
  unfold RuleExport.hiddenIds
  rw [hc.hiding_eq_ok hk]
  apply Attempt.bind_eq_ok.mpr
  exact ⟨_, rfl, Attempt.bind_eq_ok.mpr ⟨_, hids, rfl⟩⟩

/-- The names that the failing rules hide, directly and with their sections. -/
def concealed (c : CompiledForm) (facts : Facts) : List Value :=
  distinct ((failing c .field facts).map (·.targetName)) ++
    namesPlacedIn c (distinct ((failing c .section facts).map (·.targetId)))

theorem Assembled.hiddenFields_eq (hc : Assembled form c) (ht : form.TextNames) :
    hiddenFields c (.map facts) = Value.sorted (distinct (concealed c facts)) := by
  unfold hiddenFields
  rw [hc.hiddenNames_eq_ok ht, hc.hiddenIds_eq_ok ht.keys]
  rfl

/-- Only fields that stand in a section are placed. -/
theorem Assembled.of_mem_namesPlacedIn (hc : Assembled form c) (ht : form.TextNames)
    {ids : List Value} {v : Value} (h : v ∈ namesPlacedIn c ids) :
    ∃ f ∈ form.activeFields, f.name = v ∧ f.sectionId.truthy = true := by
  unfold namesPlacedIn at h
  rw [hc.placed] at h
  obtain ⟨e, he, rfl⟩ := List.mem_map.mp h
  have hactive : ∀ f ∈ form.activeFields.filter (·.sectionId.truthy), f ∈ form.activeFields :=
    fun f hf => List.mem_of_mem_filter hf
  have hentry := Table.mem_of_mem_ofList (ht.isolated hactive _) (List.mem_of_mem_filter he)
  obtain ⟨f, hf, rfl⟩ := List.mem_map.mp hentry
  obtain ⟨hf, htruthy⟩ := List.mem_filter.mp hf
  exact ⟨f, hf, rfl, htruthy⟩

theorem Compiled.mem_namesPlacedIn (hc : Compiled form c) {ids : List Value} {v : Value} :
    v ∈ namesPlacedIn c ids ↔ ∃ f ∈ form.activeFields, f.name = v ∧
      f.sectionId.truthy = true ∧ ids.contains f.sectionId = true := by
  unfold namesPlacedIn
  rw [hc.placements]
  constructor
  · intro h
    obtain ⟨e, he, rfl⟩ := List.mem_map.mp h
    obtain ⟨he, hin⟩ := List.mem_filter.mp he
    obtain ⟨f, hf, rfl⟩ := List.mem_map.mp he
    obtain ⟨hf, htruthy⟩ := List.mem_filter.mp hf
    exact ⟨f, hf, rfl, htruthy, hin⟩
  · rintro ⟨f, hf, rfl, htruthy, hin⟩
    apply List.mem_map.mpr
    refine ⟨(f.name, f.sectionId), List.mem_filter.mpr ⟨?_, hin⟩, rfl⟩
    exact List.mem_map.mpr ⟨f, List.mem_filter.mpr ⟨hf, htruthy⟩, rfl⟩

theorem Assembled.isText_concealed (hc : Assembled form c) (ht : form.TextNames) :
    ∀ v ∈ concealed c facts, v.isText = true := by
  intro v hv
  rcases List.mem_append.mp hv with hv | hv
  · have htexts : ∀ w ∈ (failing c .field facts).map (·.targetName), w.isText = true :=
      hc.isText_targetName ht
    exact htexts v ((mem_distinct htexts).mp hv)
  · obtain ⟨f, hf, rfl, -⟩ := hc.of_mem_namesPlacedIn ht hv
    exact ht f hf

theorem Assembled.hiddenFields_eq_ok (hc : Assembled form c) (ht : form.TextNames)
    (facts : Facts) :
    ∃ names : List String, hiddenFields c (.map facts) = .ok (names.map .text) ∧
      names.Pairwise (· < ·) ∧ ∀ n, n ∈ names ↔ Value.text n ∈ concealed c facts := by
  rw [hc.hiddenFields_eq ht]
  exact sorted_distinct (hc.isText_concealed ht)

theorem Compiled.hiddenFields_eq_ok (hc : Compiled form c) (hn : form.DistinctNames)
    (facts : Facts) :
    ∃ names : List String, hiddenFields c (.map facts) = .ok (names.map .text) ∧
      names.Pairwise (· < ·) ∧ ∀ n, n ∈ names ↔ Value.text n ∈ concealed c facts :=
  hc.toAssembled.hiddenFields_eq_ok hn.textNames facts

theorem Compiled.mem_hiddenNames_iff (hc : Compiled form c) (hn : form.DistinctNames)
    (hi : form.DistinctIds) {v : Value} :
    v ∈ distinct ((failing c .field facts).map (·.targetName)) ↔
      ∃ f ∈ form.activeFields, f.name = v ∧ f.owner.Fails form facts := by
  rw [mem_distinct (hc.isText_targetName hn.textNames), List.mem_map,
    hc.exists_failing_iff hi (p := fun _ name => name = v)]
  constructor
  · rintro ⟨o, ho, hfails, rfl⟩
    obtain ⟨f, hf, rfl⟩ := List.mem_map.mp ho
    exact ⟨f, hf, rfl, hfails⟩
  · rintro ⟨f, hf, rfl, hfails⟩
    exact ⟨f.owner, List.mem_map.mpr ⟨f, hf, rfl⟩, hfails, rfl⟩

theorem Compiled.contains_hiddenIds_iff (hc : Compiled form c) (hi : form.DistinctIds)
    (hs : ∀ s ∈ form.activeSections, s.id.isText = true) {id : Value} :
    (distinct ((failing c .section facts).map (·.targetId))).contains id = true ↔
      ∃ s ∈ form.activeSections, s.id = id ∧ s.owner.Fails form facts := by
  have hfailing : ∀ id, id ∈ (failing c .section facts).map (·.targetId) ↔
      ∃ s ∈ form.activeSections, s.id = id ∧ s.owner.Fails form facts := by
    intro id
    rw [List.mem_map, hc.exists_failing_iff hi (p := fun id' _ => id' = id)]
    constructor
    · rintro ⟨o, ho, hfails, rfl⟩
      obtain ⟨s, hmem, rfl⟩ := List.mem_map.mp ho
      exact ⟨s, hmem, rfl, hfails⟩
    · rintro ⟨s, hmem, rfl, hfails⟩
      exact ⟨s.owner, List.mem_map.mpr ⟨s, hmem, rfl⟩, hfails, rfl⟩
  have htexts : ∀ id ∈ (failing c .section facts).map (·.targetId), id.isText = true := by
    intro id hid
    obtain ⟨s, hmem, rfl, -⟩ := (hfailing id).mp hid
    exact hs s hmem
  have hdistinct : ∀ id ∈ distinct ((failing c .section facts).map (·.targetId)),
      id.isText = true := fun id hid => htexts id ((mem_distinct htexts).mp hid)
  rw [Value.contains_iff_mem_of_forall hdistinct, mem_distinct htexts, hfailing]

/-- Where ids are texts too, just the fields that stored rules hide are concealed. -/
theorem Compiled.mem_concealed_iff (hc : Compiled form c) (hn : form.DistinctNames)
    (hi : form.DistinctIds) (hs : ∀ s ∈ form.activeSections, s.id.isText = true) {v : Value} :
    v ∈ concealed c facts ↔ ∃ f ∈ form.activeFields, f.name = v ∧ f.HiddenBy form facts := by
  unfold concealed
  rw [List.mem_append, hc.mem_hiddenNames_iff hn hi, hc.mem_namesPlacedIn]
  simp only [hc.contains_hiddenIds_iff hi hs]
  constructor
  · rintro (⟨f, hf, hname, hfails⟩ | ⟨f, hf, hname, htruthy, s, hmem, hid, hfails⟩)
    · exact ⟨f, hf, hname, Or.inl hfails⟩
    · refine ⟨f, hf, hname, Or.inr ⟨s, hmem, hid, ?_, hfails⟩⟩
      rintro hempty
      rw [← hid, hempty] at htruthy
      cases htruthy
  · rintro ⟨f, hf, hname, hfails | ⟨s, hmem, hid, hne, hfails⟩⟩
    · exact Or.inl ⟨f, hf, hname, hfails⟩
    · refine Or.inr ⟨f, hf, hname, ?_, s, hmem, hid, hfails⟩
      obtain ⟨t, ht⟩ := Value.exists_eq_text (hs s hmem)
      rw [← hid, ht]
      rw [ht] at hne
      exact decide_eq_true fun h => hne (congrArg Value.text h)

end

end ServiceBlueprint.Form
