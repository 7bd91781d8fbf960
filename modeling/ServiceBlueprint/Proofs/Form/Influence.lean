import ServiceBlueprint.Proofs.Form.HiddenValues

/-!
# What a verdict depends on

A submission is only ever asked for the values at the names of active fields: by the exported rules,
by the entries of the schema and by what is required. So two submissions with the same answers get
the same verdict, whatever else they hold and in whatever order they hold it.
-/

namespace ServiceBlueprint.Form

/-- The same value, or none, at the name of each active field. -/
def SameAnswers (form : Form) (facts facts' : Facts) : Prop :=
  ∀ f ∈ form.activeFields, facts.find? f.name = facts'.find? f.name

/-- Whether a key is the name of an active field. -/
def asksFor (form : Form) (key : Value) : Bool :=
  form.activeFields.any (·.name == key)

section

variable {form : Form} {c : CompiledForm} {facts facts' : Facts}

/-! ### Same answers -/

theorem sameAnswers_filter (facts : Facts) :
    form.SameAnswers (facts.filter fun e => form.asksFor e.1) facts := by
  have hsame : ∀ a b : Value, (a == b) = true → form.asksFor a = form.asksFor b := by
    intro a b hab
    unfold asksFor
    simp only [BEq.congr_right hab]
  intro f hf
  have hasked : form.asksFor f.name = true := List.any_eq_true.mpr ⟨f, hf, BEq.rfl⟩
  rw [Table.find?_filter facts form.asksFor hsame, if_pos hasked]

theorem sameAnswers_of_perm (hd : Table.Distinct facts) (hp : facts.Perm facts') :
    form.SameAnswers facts facts' :=
  fun f _ => Table.find?_of_perm hd hp f.name

theorem SameAnswers.without (h : form.SameAnswers facts facts') (names : List Value) :
    form.SameAnswers (without names facts) (without names facts') := by
  intro f hf
  rw [find?_without_eq, find?_without_eq, h f hf]

/-! ### What is asked -/

theorem SameAnswers.holds (h : form.SameAnswers facts facts') (hc : Assembled form c)
    {kind : TargetKind} {r : ExportedRule} (hr : r ∈ c.rules.rules kind) :
    r.condition.holds facts = r.condition.holds facts' := by
  obtain ⟨f, hf, hname⟩ := hc.exists_source hr
  rw [Condition.holds, Condition.holds, Facts.valueAt, Facts.valueAt, ← hname, h f hf]

theorem SameAnswers.valueErrors (h : form.SameAnswers facts facts') (hc : Assembled form c)
    (ht : form.TextNames) (hidden : List Value) :
    valueErrors (Form.without hidden c.schema.properties) facts =
      valueErrors (Form.without hidden c.schema.properties) facts' := by
  have hentries : ∀ e ∈ Form.without hidden c.schema.properties,
      entryErrors facts e = entryErrors facts' e := by
    intro e he
    obtain ⟨f, hf, rfl⟩ := hc.mem_properties ht (List.mem_of_mem_filter he)
    unfold entryErrors
    rw [h f hf]
  rw [valueErrors_eq_mapM, valueErrors_eq_mapM, Attempt.mapM_congr hentries]

theorem SameAnswers.requiredErrors (h : form.SameAnswers facts facts') (hc : Assembled form c)
    (hidden : List Value) :
    requiredErrors (c.schema.required.filter fun n => !hidden.contains n) facts =
      requiredErrors (c.schema.required.filter fun n => !hidden.contains n) facts' := by
  have hmissing : missingNames (c.schema.required.filter fun n => !hidden.contains n) facts =
      missingNames (c.schema.required.filter fun n => !hidden.contains n) facts' := by
    apply List.filter_congr
    intro n hn
    have hrequired := List.mem_of_mem_filter hn
    rw [hc.required] at hrequired
    obtain ⟨f, hf, rfl⟩ := List.mem_map.mp hrequired
    rw [Table.hasKey, Table.hasKey, h f (List.mem_of_mem_filter hf)]
  unfold Form.requiredErrors
  rw [hmissing]

theorem SameAnswers.judgeShown (h : form.SameAnswers facts facts') (hc : Assembled form c)
    (ht : form.TextNames) (hidden : List Value) :
    judgeShown c hidden facts = judgeShown c hidden facts' := by
  unfold Form.judgeShown
  rw [h.valueErrors hc ht, h.requiredErrors hc]

/-- The hidden fields are the same because the rules are, and of the rest the same is left. -/
theorem SameAnswers.judge (h : form.SameAnswers facts facts') (hc : Assembled form c)
    (ht : form.TextNames) : judge c (.map facts) = judge c (.map facts') := by
  obtain ⟨names, hhidden, -⟩ := hc.hiddenFields_eq_ok ht facts
  have hhidden' := hhidden
  rw [hc.hiddenFields_congr ht fun kind r hr => h.holds hc hr] at hhidden'
  rw [judge_of_hiddenFields hhidden, judge_of_hiddenFields hhidden']
  exact (h.without _).judgeShown hc ht _

/-! ### Verdicts on the same answers -/

/-- Submissions with the same answers get the same verdict, or fail in the same way, which none does
if the schema is well formed. What is not asked for may be left out, and the order is free. -/
theorem judge_of_same_answers (h : form.compile = .ok c) (ht : form.TextNames) :
    (∀ facts facts', form.SameAnswers facts facts' →
      judge c (.map facts) = judge c (.map facts')) ∧
      (∀ facts : Facts, judge c (.map (facts.filter fun e => form.asksFor e.1)) =
        judge c (.map facts)) ∧
      (∀ facts facts' : Facts, Table.Distinct facts → facts.Perm facts' →
        judge c (.map facts) = judge c (.map facts')) ∧
      (c.schema.check = .ok () → ∀ facts, ∃ v, judge c (.map facts) = .ok v) := by
  have hc := assembled_of_compile h
  refine ⟨?_, ?_, ?_, ?_⟩
  · exact fun facts facts' hsame => hsame.judge hc ht
  · exact fun facts => (sameAnswers_filter facts).judge hc ht
  · exact fun facts facts' hd hp => (sameAnswers_of_perm hd hp).judge hc ht
  · intro hcheck facts
    apply hc.judge_isOk_of_entries ht
    intro e he w _
    obtain ⟨vs, hvs, -⟩ := violations_eq_ok (checkProperty_of_check hcheck he) w
    exact ⟨vs, hvs⟩

end

/-- The id of the field that decides about the count is no name, so nothing is read there. -/
theorem judge_of_same_answers_survey :
    let facts : Facts := [(.text "1", .text "many"), (.text "note", .int 3),
      (.text "mode", .text "m"), (.text "Notes", .null)]
    let facts' : Facts := [(.text "mode", .text "m"), (.text "note", .int 3)]
    ∃ c v, survey.compile = .ok c ∧ survey.TextNames ∧ c.schema.check = .ok () ∧
      survey.SameAnswers facts facts' ∧
      judge c (.map facts) = .ok v ∧ judge c (.map facts') = .ok v := by
  intro facts facts'
  obtain ⟨c, hcompile, hcheck⟩ := survey_compiles
  have ht := distinctNames_survey.textNames
  have hsame : survey.SameAnswers facts facts' := by
    unfold SameAnswers
    rw [activeFields_survey]
    decide
  obtain ⟨hjudge, -, -, htotal⟩ := judge_of_same_answers hcompile ht
  obtain ⟨v, hv⟩ := htotal hcheck facts
  exact ⟨c, v, hcompile, ht, hcheck, hsame, hv, hjudge facts facts' hsame ▸ hv⟩

end ServiceBlueprint.Form
