import ServiceBlueprint.Proofs.Form.Submission

/-!
# What hidden values decide

Hidden values are left out before a submission is judged, but the rules have seen them. So leaving
them out beforehand can change which fields are hidden, and nothing else; and it changes that only
if some rule has a hidden field as its source and finds no value there otherwise than the one given.
-/

namespace ServiceBlueprint.Form

/-- The verdict on the values that are left when the given names are hidden. -/
def judgeShown (c : CompiledForm) (hidden : List Value) (visible : Facts) : Attempt Verdict := do
  let values ← valueErrors (without hidden c.schema.properties) visible
  let required := requiredErrors (c.schema.required.filter fun n => !hidden.contains n) visible
  return ⟨← sortErrors (values ++ required), hidden⟩

theorem judge_of_hiddenFields {c : CompiledForm} {facts : Facts} {hidden : List Value}
    (h : hiddenFields c (.map facts) = .ok hidden) :
    judge c (.map facts) = judgeShown c hidden (without hidden facts) := by
  unfold judge
  rw [h]
  rfl

theorem without_without (names : List Value) (facts : Facts) :
    without names (without names facts) = without names facts := by
  unfold without
  rw [List.filter_filter]
  apply List.filter_congr
  intro e _
  exact Bool.and_self _

section

variable {form : Form} {c : CompiledForm} {facts facts' : Facts}

/-- Which fields are hidden depends on the outcomes of the exported rules alone. -/
theorem Assembled.hiddenFields_congr (hc : Assembled form c) (ht : form.TextNames)
    (h : ∀ kind, ∀ r ∈ c.rules.rules kind, r.condition.holds facts = r.condition.holds facts') :
    hiddenFields c (.map facts) = hiddenFields c (.map facts') := by
  have hfailing : ∀ kind, failing c kind facts = failing c kind facts' := by
    intro kind
    apply List.filter_congr
    intro r hr
    rw [h kind r hr]
  rw [hc.hiddenFields_eq ht, hc.hiddenFields_eq ht, concealed, concealed, hfailing, hfailing]

/-- The outcome of a rule for the value given to its source is the one for no value. -/
def ExportedRule.Overlooks (r : ExportedRule) (facts : Facts) : Prop :=
  r.condition.holds facts = r.condition.operator.compares .null r.condition.expected

theorem holds_without {r : ExportedRule} {hidden : List Value}
    (h : hidden.contains r.condition.fact = true → r.Overlooks facts) :
    r.condition.holds (without hidden facts) = r.condition.holds facts := by
  by_cases hin : hidden.contains r.condition.fact
  · rw [h hin, Condition.holds, Facts.valueAt, find?_without_eq, if_pos hin]
    rfl
  · rw [Condition.holds, Condition.holds, Facts.valueAt, find?_without_eq, if_neg hin]
    rfl

/-- A submission without the values that it hides gets the same verdict exactly if it hides the same
fields, and it does if every rule with a hidden source overlooks the value there. -/
theorem judge_without_hidden (h : form.compile = .ok c) (hn : form.DistinctNames) (facts : Facts) :
    (c.schema.check = .ok () → ∃ v, judge c (.map facts) = .ok v) ∧
      ∀ v, judge c (.map facts) = .ok v →
        (judge c (.map (without v.hiddenFields facts)) = .ok v ↔
          hiddenFields c (.map (without v.hiddenFields facts)) = .ok v.hiddenFields) ∧
        ((∀ kind, ∀ r ∈ c.rules.rules kind, r.condition.fact ∈ v.hiddenFields →
            r.Overlooks facts) →
          judge c (.map (without v.hiddenFields facts)) = .ok v) := by
  have hc := compiled_of_compile h hn
  refine ⟨fun hcheck => hc.judge_eq_ok hn hcheck facts, ?_⟩
  intro v hv
  have hhidden := hiddenFields_of_judge hv
  have hsame : hiddenFields c (.map (without v.hiddenFields facts)) = .ok v.hiddenFields →
      judge c (.map (without v.hiddenFields facts)) = .ok v := by
    intro hagain
    rw [judge_of_hiddenFields hagain, without_without, ← judge_of_hiddenFields hhidden, hv]
  refine ⟨⟨hiddenFields_of_judge, hsame⟩, ?_⟩
  intro hoverlooked
  apply hsame
  rw [← hhidden]
  apply hc.toAssembled.hiddenFields_congr hn.textNames
  intro kind r hr
  apply holds_without
  intro hin
  rw [Value.contains_iff_mem (hc.isText_fact hn hr)] at hin
  exact hoverlooked kind r hr hin

end

/-! ### A kennel -/

/-- The kind is asked for if there is a pet, and the breed if the kind is a dog. -/
def kennel : Form :=
  let pet : Field := ⟨.text "1", .text "pet", .text "Pet", "TEXT", true, .null, 0, [], none, true⟩
  let kind : Field := ⟨.text "2", .text "kind", .text "Kind", "TEXT", false, .null, 1, [],
    some ⟨.text "1", "equals", .text "yes"⟩, true⟩
  let breed : Field := ⟨.text "3", .text "breed", .text "Breed", "TEXT", true, .null, 2, [],
    some ⟨.text "2", "equals", .text "dog"⟩, true⟩
  ⟨.text "f", .text "Kennel", ⟨⟨2024, 1, 15⟩, 10, 30, 0, 0, some 0⟩, [pet, kind, breed], []⟩

theorem distinctNames_kennel : kennel.DistinctNames := by
  decide

theorem judge_without_hidden_cat :
    let facts : Facts := [(.text "pet", .text "no"), (.text "kind", .text "cat")]
    ∃ c v, kennel.compile = .ok c ∧ kennel.DistinctNames ∧ c.schema.check = .ok () ∧
      judge c (.map facts) = .ok v ∧ v.hiddenFields = [.text "breed", .text "kind"] ∧
      (∀ kind, ∀ r ∈ c.rules.rules kind, r.condition.fact ∈ v.hiddenFields →
        r.Overlooks facts) ∧
      judge c (.map (without v.hiddenFields facts)) = .ok v := by
  intro facts
  have hrun : (do
      let c ← kennel.compile
      let _ ← c.schema.check
      let v ← judge c (.map facts)
      let overlooked := (c.rules.fields ++ c.rules.sections).all fun r =>
        r.condition.holds facts = r.condition.operator.compares .null r.condition.expected
      return (v.hiddenFields, overlooked) : Attempt (List Value × Bool)) =
        .ok ([.text "breed", .text "kind"], true) := by
    cbv
  obtain ⟨c, hcompile, hrun⟩ := Attempt.bind_eq_ok.mp hrun
  obtain ⟨u, hcheck, hrun⟩ := Attempt.bind_eq_ok.mp hrun
  obtain ⟨v, hv, hrun⟩ := Attempt.bind_eq_ok.mp hrun
  obtain ⟨hhidden, hall⟩ := Prod.mk.inj (Except.ok.inj hrun)
  have hoverlooked : ∀ kind, ∀ r ∈ c.rules.rules kind, r.condition.fact ∈ v.hiddenFields →
      r.Overlooks facts := by
    intro kind r hr _
    rw [List.all_eq_true] at hall
    unfold ExportedRule.Overlooks
    apply of_decide_eq_true
    apply hall
    cases kind with
    | field => exact List.mem_append_left _ hr
    | «section» => exact List.mem_append_right _ hr
  obtain ⟨-, hsame⟩ := judge_without_hidden hcompile distinctNames_kennel facts
  exact ⟨c, v, hcompile, distinctNames_kennel, hcheck, hv, hhidden, hoverlooked,
    (hsame v hv).2 hoverlooked⟩

/-- Without a pet the kind is hidden, but a kind that is given shows the breed, which is required.
With the kind left out the breed is hidden too. -/
theorem judge_ne_judge_without_hidden_dog :
    let facts : Facts := [(.text "pet", .text "no"), (.text "kind", .text "dog")]
    ∃ c v w, kennel.compile = .ok c ∧ kennel.DistinctNames ∧ c.schema.check = .ok () ∧
      judge c (.map facts) = .ok v ∧ judge c (.map (without v.hiddenFields facts)) = .ok w ∧
      v.hiddenFields = [.text "kind"] ∧ w.hiddenFields = [.text "breed", .text "kind"] ∧
      v.errors.map (·.field) = [.text "breed"] ∧ w.errors.map (·.field) = [] ∧
      v.valid = false ∧ w.valid = true := by
  intro facts
  have hrun : (do
      let c ← kennel.compile
      let _ ← c.schema.check
      let v ← judge c (.map facts)
      let w ← judge c (.map (without v.hiddenFields facts))
      return ((v.hiddenFields, w.hiddenFields), (v.errors.map (·.field), w.errors.map (·.field)),
        (v.valid, w.valid)) :
        Attempt ((List Value × List Value) × (List Value × List Value) × (Bool × Bool))) =
        .ok (([.text "kind"], [.text "breed", .text "kind"]), ([.text "breed"], []),
          (false, true)) := by
    cbv
  obtain ⟨c, hcompile, hrun⟩ := Attempt.bind_eq_ok.mp hrun
  obtain ⟨u, hcheck, hrun⟩ := Attempt.bind_eq_ok.mp hrun
  obtain ⟨v, hv, hrun⟩ := Attempt.bind_eq_ok.mp hrun
  obtain ⟨w, hw, hrun⟩ := Attempt.bind_eq_ok.mp hrun
  simp only [pure, Except.pure, Except.ok.injEq, Prod.mk.injEq] at hrun
  obtain ⟨⟨hv1, hw1⟩, ⟨hv2, hw2⟩, hv3, hw3⟩ := hrun
  exact ⟨c, v, w, hcompile, distinctNames_kennel, hcheck, hv, hw, hv1, hw1, hv2, hw2, hv3, hw3⟩

end ServiceBlueprint.Form
