import Mathlib
import ServiceBlueprint.Gap.Topology
import ServiceBlueprint.Proofs.Value.Text

/-!
# Where a flow starts

A step is a start if it is marked as one or if the flow names it, and steps without connections are
told apart by that. The rule on starts looks for a mark or for any name at all. So it is silent on a
flow that names none of its steps, it objects to a flow that names a step by the empty text, and in
every other flow it objects just where no step is a start.
-/

namespace ServiceBlueprint.Gap

open Service

variable {p : Flow}

/-- Some step is a start to the rule on connections. -/
def HasStart (p : Flow) : Prop :=
  ∃ s ∈ p.steps, isStart p s = true

/-- The name that the flow gives for its start is the id of no step. -/
def NamesNoStep (p : Flow) : Prop :=
  p.startStepId.truthy = true ∧ ∀ s ∈ p.steps, s.id ≠ p.startStepId

/-- The flow and a step have the empty text for their name, which counts as none for the flow. -/
def NamesBlankStep (p : Flow) : Prop :=
  p.startStepId = .text "" ∧ ∃ s ∈ p.steps, s.id = .text ""

theorem missingStart_eq_nil_iff (hsteps : p.steps ≠ []) :
    missingStart p = [] ↔ p.startStepId.truthy = true ∨ ∃ s ∈ p.steps, s.isStart = true := by
  rw [← List.any_eq_true, ← Bool.or_eq_true]
  unfold missingStart
  cases hall : p.steps with
  | nil => exact absurd hall hsteps
  | cons first rest =>
    dsimp only
    split
    next hstart => exact iff_of_true rfl hstart
    next hstart => exact iff_of_false (List.cons_ne_nil _ _) hstart

/-- Among steps with textual ids the flow names just the one that has the very id. -/
theorem hasStart_iff (hids : ∀ s ∈ p.steps, s.id.isText = true) :
    HasStart p ↔ (∃ s ∈ p.steps, s.isStart = true) ∨ ∃ s ∈ p.steps, s.id = p.startStepId := by
  unfold HasStart isStart
  simp only [Bool.or_eq_true, and_or_left, exists_or]
  apply or_congr_right
  apply exists_congr
  intro s
  exact and_congr_right fun hs => Value.beq_iff_eq_of_isText (hids s hs)

/-- A name that counts as none, and yet is that of a step, is the empty text. -/
theorem namesBlankStep_iff (hids : ∀ s ∈ p.steps, s.id.isText = true) :
    NamesBlankStep p ↔
      ¬ p.startStepId.truthy = true ∧ ∃ s ∈ p.steps, s.id = p.startStepId := by
  constructor
  · rintro ⟨hname, s, hs, hid⟩
    rw [hname]
    exact ⟨Bool.false_ne_true, s, hs, hid⟩
  · rintro ⟨hfalsy, s, hs, hid⟩
    obtain ⟨t, ht⟩ := Value.exists_eq_text (hids s hs)
    have hempty : t = "" := by
      rw [← hid, ht] at hfalsy
      simpa [Value.truthy] using hfalsy
    rw [hempty] at ht
    exact ⟨hid.symm.trans ht, s, hs, ht⟩

/-- The rule on starts objects to a flow exactly if none of its steps is a start, but for flows
without a marked step that name what is no step, or name a step by the empty text. On the former it
is silent without a start, and to the latter it objects in spite of one. -/
theorem missingStart_agrees_iff (hsteps : p.steps ≠ [])
    (hids : ∀ s ∈ p.steps, s.id.isText = true) :
    ((missingStart p ≠ [] ↔ ¬ HasStart p) ↔
      (∃ s ∈ p.steps, s.isStart = true) ∨ ¬ NamesNoStep p ∧ ¬ NamesBlankStep p) ∧
      (¬ (∃ s ∈ p.steps, s.isStart = true) →
        (NamesNoStep p → missingStart p = [] ∧ ¬ HasStart p) ∧
          (NamesBlankStep p → missingStart p ≠ [] ∧ HasStart p)) := by
  have hunknown : NamesNoStep p ↔
      p.startStepId.truthy = true ∧ ¬ ∃ s ∈ p.steps, s.id = p.startStepId := by
    simp [NamesNoStep]
  rw [ne_eq, missingStart_eq_nil_iff hsteps, hasStart_iff hids, hunknown, namesBlankStep_iff hids]
  -- What is left is about three facts: a mark, a name that is asked for, and a step with that name.
  generalize (∃ s ∈ p.steps, s.isStart = true) = marked
  generalize (∃ s ∈ p.steps, s.id = p.startStepId) = named
  generalize (p.startStepId.truthy = true) = asked
  constructor
  · tauto
  · tauto

/-! ### A permit -/

/-- An intake and a decision, under a given name of the start. -/
def permit (start : Value) : Flow :=
  let step (id name : String) (isTerminal : Bool) : Step :=
    ⟨.text id, .text name, .null, false, isTerminal, .null, .null⟩
  { id := .text "w"
    name := .text "Permit"
    steps := [step "s1" "Intake" false, step "s2" "Decision" true]
    transitions := [⟨.text "t1", .text "s1", .text "s2", .null⟩]
    startStepId := start }

theorem isText_permit (start : Value) : ∀ s ∈ (permit start).steps, s.id.isText = true := by
  simp [permit, Value.isText]

/-- The rule objects to the permit without a name, and not to that under the name of the intake. -/
theorem missingStart_agrees_iff_permit :
    ((permit .null).steps ≠ [] ∧ (∀ s ∈ (permit .null).steps, s.id.isText = true) ∧
      (missingStart (permit .null) ≠ [] ↔ ¬ HasStart (permit .null))) ∧
      (permit (.text "s1")).steps ≠ [] ∧
        (∀ s ∈ (permit (.text "s1")).steps, s.id.isText = true) ∧
        (missingStart (permit (.text "s1")) ≠ [] ↔ ¬ HasStart (permit (.text "s1"))) := by
  have hsteps : ∀ start, (permit start).steps ≠ [] := fun _ => List.cons_ne_nil _ _
  refine ⟨⟨hsteps _, isText_permit _, ?_⟩, hsteps _, isText_permit _, ?_⟩
  · apply (missingStart_agrees_iff (hsteps _) (isText_permit _)).1.mpr
    exact Or.inr ⟨by simp [NamesNoStep, permit, Value.truthy], by simp [NamesBlankStep, permit]⟩
  · apply (missingStart_agrees_iff (hsteps _) (isText_permit _)).1.mpr
    exact Or.inr ⟨by simp [NamesNoStep, permit], by simp [NamesBlankStep, permit]⟩

/-- The name of no step keeps the rule silent on a permit of which no step is a start. -/
theorem not_missingStart_agrees_permit :
    (permit (.text "s0")).steps ≠ [] ∧
      (∀ s ∈ (permit (.text "s0")).steps, s.id.isText = true) ∧
      ¬ (missingStart (permit (.text "s0")) ≠ [] ↔ ¬ HasStart (permit (.text "s0"))) := by
  have hnone : ¬ HasStart (permit (.text "s0")) := by
    rw [hasStart_iff (isText_permit _)]
    simp [permit]
  exact ⟨List.cons_ne_nil _ _, isText_permit _, fun h => h.mpr hnone rfl⟩

end ServiceBlueprint.Gap
