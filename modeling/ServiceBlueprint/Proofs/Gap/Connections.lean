import Mathlib
import ServiceBlueprint.Proofs.Gap.Analysis

/-!
# Steps without connections

The rule on connections looks at the two ends of each transition, and not at where the other end
leads. So it reports a step that is no start exactly if no transition has the step at an end. Such a
step is linked with no other step of the flow; but a step that is linked with none is passed over if
a transition runs from it to itself, or between it and what is no step.
-/

namespace ServiceBlueprint.Gap

open Service

variable {p : Flow} {s : Step} {found : List Finding}

/-! ### What a transition joins -/

/-- The transition runs between two ids, in either direction. -/
def Joins (t : Transition) (a b : Value) : Prop :=
  t.source = a ∧ t.target = b ∨ t.source = b ∧ t.target = a

/-- A transition joins the step with a different step of the flow. -/
def IsLinked (p : Flow) (s : Step) : Prop :=
  ∃ t ∈ p.transitions, ∃ s' ∈ p.steps, s'.id ≠ s.id ∧ Joins t s.id s'.id

/-- A transition joins the step with itself or with what is no step of the flow. -/
def HasLooseTransition (p : Flow) (s : Step) : Prop :=
  ∃ t ∈ p.transitions, ∃ stop, (∀ s' ∈ p.steps, s'.id ≠ s.id → stop ≠ s'.id) ∧ Joins t s.id stop

/-- No transition has the step at an end. -/
def IsApart (p : Flow) (s : Step) : Prop :=
  ∀ t ∈ p.transitions, t.source ≠ s.id ∧ t.target ≠ s.id

theorem isApart_iff_joins :
    IsApart p s ↔ ∀ t ∈ p.transitions, ∀ stop, ¬ Joins t s.id stop := by
  apply forall₂_congr
  intro t _
  constructor
  · rintro ⟨hsource, htarget⟩ stop (h | h)
    · exact hsource h.1
    · exact htarget h.2
  · intro h
    exact ⟨fun hsource => h t.target (Or.inl ⟨hsource, rfl⟩),
      fun htarget => h t.source (Or.inr ⟨rfl, htarget⟩)⟩

/-- To be apart is to be linked with no step and to have no loose transition either. -/
theorem isApart_iff : IsApart p s ↔ ¬ IsLinked p s ∧ ¬ HasLooseTransition p s := by
  rw [isApart_iff_joins]
  constructor
  · intro h
    constructor
    · rintro ⟨t, ht, s', -, -, hjoins⟩
      exact h t ht s'.id hjoins
    · rintro ⟨t, ht, stop, -, hjoins⟩
      exact h t ht stop hjoins
  · rintro ⟨hlinked, hloose⟩ t ht stop hjoins
    by_cases hother : ∃ s' ∈ p.steps, s'.id ≠ s.id ∧ stop = s'.id
    · obtain ⟨s', hs', hne, rfl⟩ := hother
      exact hlinked ⟨t, ht, s', hs', hne, hjoins⟩
    · exact hloose ⟨t, ht, stop, fun s' hs' hne heq => hother ⟨s', hs', hne, heq⟩, hjoins⟩

/-! ### What is reported -/

/-- Among steps with textual ids, the findings are about those that are apart and no start. -/
theorem mem_orphanSteps_iff (hids : ∀ s ∈ p.steps, s.id.isText = true)
    (h : orphanSteps p = .ok found) {f : Finding} :
    f ∈ found ↔ ∃ s ∈ p.steps, isStart p s = false ∧ IsApart p s ∧ orphanFinding p s = f := by
  obtain ⟨u, -, h⟩ := Attempt.bind_eq_ok.mp h
  cases h
  rw [List.mem_map]
  apply exists_congr
  intro s
  simp only [List.mem_filter, Bool.and_eq_true, Bool.not_eq_true', and_assoc]
  apply and_congr_right
  intro hs
  have hends : ((sources p).contains s.id = false ∧ (targets p).contains s.id = false) ↔
      IsApart p s := by
    rw [← Bool.not_eq_true, ← Bool.not_eq_true, Value.contains_iff_mem (hids s hs),
      Value.contains_iff_mem (hids s hs)]
    simp only [sources, targets, List.mem_map, not_exists, not_and, IsApart]
    exact ⟨fun h t ht => ⟨h.1 t ht, h.2 t ht⟩, fun h => ⟨fun t ht => (h t ht).1,
      fun t ht => (h t ht).2⟩⟩
  rw [← hends, and_assoc]

/-- A finding is put at the step. -/
def ReportsStep (found : List Finding) (s : Step) : Prop :=
  ∃ f ∈ found, f.location.id = s.id

theorem reportsStep_iff (hids : ∀ s ∈ p.steps, s.id.isText = true)
    (hdistinct : (p.steps.map (·.id)).Nodup) (h : orphanSteps p = .ok found) (hs : s ∈ p.steps) :
    ReportsStep found s ↔ isStart p s = false ∧ IsApart p s := by
  constructor
  · rintro ⟨f, hf, hid⟩
    obtain ⟨s', hs', hstart, hapart, rfl⟩ := (mem_orphanSteps_iff hids h).mp hf
    cases List.inj_on_of_nodup_map hdistinct hs' hs hid
    exact ⟨hstart, hapart⟩
  · rintro ⟨hstart, hapart⟩
    exact ⟨_, (mem_orphanSteps_iff hids h).mpr ⟨s, hs, hstart, hapart, rfl⟩, rfl⟩

theorem orphanSteps_isOk_iff_of_isText (hids : ∀ s ∈ p.steps, s.id.isText = true) :
    (∃ found, orphanSteps p = .ok found) ↔
      ∀ t ∈ p.transitions, t.source.isKey = true ∧ t.target.isKey = true := by
  rw [orphanSteps_isOk_iff, and_iff_left fun s hs _ => Value.isKey_of_isText (hids s hs)]
  exact ⟨fun h t ht => ⟨h.1 t ht, h.2 t ht⟩,
    fun h => ⟨fun t ht => (h t ht).1, fun t ht => (h t ht).2⟩⟩

/-- Connections are judged if the ends of transitions may be keys. A step that is no start is then
reported exactly if no transition has it at an end: if none joins it with a different step, and none
with itself or with what is no step. -/
theorem orphanSteps_report (hids : ∀ s ∈ p.steps, s.id.isText = true)
    (hdistinct : (p.steps.map (·.id)).Nodup) :
    ((∃ found, orphanSteps p = .ok found) ↔
        ∀ t ∈ p.transitions, t.source.isKey = true ∧ t.target.isKey = true) ∧
      ∀ found, orphanSteps p = .ok found →
        (∀ f ∈ found, ∃ s ∈ p.steps, isStart p s = false ∧ f = orphanFinding p s) ∧
        ∀ s ∈ p.steps, isStart p s = false →
          (ReportsStep found s ↔ IsApart p s) ∧
            (ReportsStep found s ↔ ¬ IsLinked p s ∧ ¬ HasLooseTransition p s) := by
  refine ⟨orphanSteps_isOk_iff_of_isText hids, ?_⟩
  intro found h
  constructor
  · intro f hf
    obtain ⟨s, hs, hstart, -, rfl⟩ := (mem_orphanSteps_iff hids h).mp hf
    exact ⟨s, hs, hstart, rfl⟩
  · intro s hs hstart
    have hreports : ReportsStep found s ↔ IsApart p s := by
      rw [reportsStep_iff hids hdistinct h hs, and_iff_right hstart]
    exact ⟨hreports, hreports.trans isApart_iff⟩

/-! ### A renewal -/

/-- An intake, a review that leads to itself, and an archive that nothing leads to. -/
def renewal : Flow :=
  let step (id name : String) (isStart : Bool) : Step :=
    ⟨.text id, .text name, .null, isStart, true, .null, .null⟩
  { id := .text "w"
    name := .text "Renewal"
    steps := [step "s1" "Intake" true, step "s2" "Review" false, step "s3" "Archive" false]
    transitions := [⟨.text "t1", .text "s2", .text "s2", .null⟩]
    startStepId := .null }

def review : Step := ⟨.text "s2", .text "Review", .null, false, true, .null, .null⟩

def archive : Step := ⟨.text "s3", .text "Archive", .null, false, true, .null, .null⟩

theorem isText_renewal : ∀ s ∈ renewal.steps, s.id.isText = true := by
  simp [renewal, Value.isText]

theorem distinct_renewal : (renewal.steps.map (·.id)).Nodup := by
  simp [renewal]

theorem not_isLinked_review : ¬ IsLinked renewal review := by
  simp [IsLinked, Joins, renewal, review]

theorem not_isApart_review : ¬ IsApart renewal review := by
  simp [IsApart, renewal, review]

/-- The archive is reported, and the review is not. -/
theorem orphanSteps_report_renewal :
    (∀ s ∈ renewal.steps, s.id.isText = true) ∧ (renewal.steps.map (·.id)).Nodup ∧
      (∀ t ∈ renewal.transitions, t.source.isKey = true ∧ t.target.isKey = true) ∧
      ∃ found, orphanSteps renewal = .ok found ∧ archive ∈ renewal.steps ∧
        isStart renewal archive = false ∧ ReportsStep found archive ∧ review ∈ renewal.steps ∧
        isStart renewal review = false ∧ ¬ ReportsStep found review := by
  have hkeys : ∀ t ∈ renewal.transitions, t.source.isKey = true ∧ t.target.isKey = true := by
    simp [renewal, Value.isKey]
  obtain ⟨hjudged, hreports⟩ := orphanSteps_report isText_renewal distinct_renewal
  obtain ⟨found, hfound⟩ := hjudged.mpr hkeys
  obtain ⟨-, hsteps⟩ := hreports found hfound
  have harchive : archive ∈ renewal.steps := by simp [renewal, archive]
  have hreview : review ∈ renewal.steps := by simp [renewal, review]
  have hapart : IsApart renewal archive := by simp [IsApart, renewal, archive]
  exact ⟨isText_renewal, distinct_renewal, hkeys, found, hfound, harchive, rfl,
    (hsteps archive harchive rfl).1.mpr hapart, hreview, rfl,
    fun h => not_isApart_review ((hsteps review hreview rfl).1.mp h)⟩

/-- A transition from the review to itself keeps it from being reported, although it is linked with
no other step. -/
theorem not_orphanSteps_unlinked_renewal :
    (∀ s ∈ renewal.steps, s.id.isText = true) ∧ (renewal.steps.map (·.id)).Nodup ∧
      ¬ ∃ found, orphanSteps renewal = .ok found ∧ ∀ s ∈ renewal.steps, isStart renewal s = false →
        (ReportsStep found s ↔ ¬ IsLinked renewal s) := by
  refine ⟨isText_renewal, distinct_renewal, ?_⟩
  rintro ⟨found, hfound, hsteps⟩
  have hreview : review ∈ renewal.steps := by simp [renewal, review]
  have hreported := (hsteps review hreview rfl).mpr not_isLinked_review
  rw [reportsStep_iff isText_renewal distinct_renewal hfound hreview] at hreported
  exact not_isApart_review hreported.2

end ServiceBlueprint.Gap
