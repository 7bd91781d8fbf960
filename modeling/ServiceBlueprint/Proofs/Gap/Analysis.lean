import Mathlib
import ServiceBlueprint.Proofs.Gap.Coverage
import ServiceBlueprint.Proofs.Gap.Presence

/-!
# What an analysis reports

Where names and types of fields are texts, presence and coverage are always judged, and the flow is
judged if the ids that are compared in it are keys. A report then holds what the families found:
each gap once, numbered as it was found, and listed by severity. To switch a family off is to leave
out what it found.
-/

namespace ServiceBlueprint

namespace Gap

/-! ### When the flow is judged -/

/-- What is compared in a flow may be a key: the ends of transitions, and the ids of steps that are
not both a start and terminal. -/
structure Keyed (p : Service.Flow) : Prop where
  ends : ∀ t ∈ p.transitions, t.source.isKey = true ∧ t.target.isKey = true
  steps : ∀ st ∈ p.steps, isStart p st = false ∨ st.isTerminal = false → st.id.isKey = true

section

variable {s : Service} {p : Service.Flow}

theorem requireKeys_isOk_iff {vs : List Value} :
    (∃ u, requireKeys vs = .ok u) ↔ ∀ v ∈ vs, v.isKey = true := by
  rw [← List.all_eq_true, requireKeys]
  split
  next h => simp [h]
  next h => simp [h]

theorem orphanSteps_isOk_iff :
    (∃ found, orphanSteps p = .ok found) ↔
      ((∀ t ∈ p.transitions, t.source.isKey = true) ∧
        ∀ t ∈ p.transitions, t.target.isKey = true) ∧
      ∀ st ∈ p.steps, isStart p st = false → st.id.isKey = true := by
  refine (Attempt.bind_isOk_iff fun u => ⟨_, rfl⟩).trans ?_
  simp only [requireKeys_isOk_iff, sources, targets, List.forall_mem_append, List.forall_mem_map,
    List.mem_filter, Bool.not_eq_true', and_imp]

theorem deadEnds_isOk_iff :
    (∃ found, deadEnds p = .ok found) ↔
      (∀ t ∈ p.transitions, t.source.isKey = true) ∧
        ∀ st ∈ p.steps, st.isTerminal = false → st.id.isKey = true := by
  refine (Attempt.bind_isOk_iff fun u => ⟨_, rfl⟩).trans ?_
  simp only [requireKeys_isOk_iff, sources, List.forall_mem_append, List.forall_mem_map,
    List.mem_filter, Bool.not_eq_true', and_imp]

theorem detect_isOk_iff : (∀ r ∈ TopologyRule.all, ∃ found, r.detect p = .ok found) ↔ Keyed p := by
  have hrules : (∀ r ∈ TopologyRule.all, ∃ found, r.detect p = .ok found) ↔
      (∃ found, orphanSteps p = .ok found) ∧ ∃ found, deadEnds p = .ok found := by
    simp [TopologyRule.all, TopologyRule.detect]
  rw [hrules, orphanSteps_isOk_iff, deadEnds_isOk_iff]
  constructor
  · rintro ⟨⟨⟨hsources, htargets⟩, hothers⟩, -, hopen⟩
    refine ⟨fun t ht => ⟨hsources t ht, htargets t ht⟩, ?_⟩
    rintro st hst (hstart | hterminal)
    · exact hothers st hst hstart
    · exact hopen st hst hterminal
  · intro h
    have hsources : ∀ t ∈ p.transitions, t.source.isKey = true := fun t ht => (h.ends t ht).1
    have htargets : ∀ t ∈ p.transitions, t.target.isKey = true := fun t ht => (h.ends t ht).2
    exact ⟨⟨⟨hsources, htargets⟩, fun st hst hstart => h.steps st hst (Or.inl hstart)⟩, hsources,
      fun st hst hterminal => h.steps st hst (Or.inr hterminal)⟩

theorem workflowGaps_isOk_iff :
    (∃ gaps, workflowGaps s = .ok gaps) ↔ ∀ p, s.flow = some p → Keyed p := by
  unfold workflowGaps
  cases s.flow with
  | none => simp
  | some p =>
    simp only [Option.some.injEq, forall_eq', ← detect_isOk_iff]
    refine (Attempt.bind_isOk_iff fun found => ⟨_, rfl⟩).trans ?_
    rw [Attempt.mapM_isOk_iff]
    apply forall₂_congr
    intro r _
    exact Attempt.bind_isOk_iff fun found => ⟨_, rfl⟩

end

/-! ### Numbered gaps in lists by severity -/

/-- A gap under the number of its place, counted from zero. -/
def numbered (e : Gap × Nat) : Gap :=
  { e.1 with id := "gap-" ++ toString (e.2 + 1) }

theorem number_eq (gaps : List Gap) : number gaps = gaps.zipIdx.map numbered :=
  List.mapIdx_eq_zipIdx_map

theorem nodup_ids_number (gaps : List Gap) : ((number gaps).map (·.id)).Nodup := by
  have hids : (number gaps).map (·.id) =
      (List.range' 0 gaps.length).map fun n => "gap-" ++ toString (n + 1) := by
    rw [number_eq, List.map_map, ← List.zipIdx_map_snd, List.map_map]
    rfl
  rw [hids]
  apply List.Nodup.map _ List.nodup_range'
  intro m n h
  have hsucc := Nat.repr_inj.mp ((String.append_right_inj _).mp h)
  omega

/-- Lists by severity hold every gap once. -/
theorem flatMap_filter_severity_perm (gaps : List Gap) :
    (Severity.all.flatMap fun v => gaps.filter (·.severity = v)).Perm gaps := by
  let others := gaps.filter fun g => !decide (g.severity = .critical)
  have hwarning : others.filter (·.severity = .warning) = gaps.filter (·.severity = .warning) := by
    rw [List.filter_filter]
    apply List.filter_congr
    intro g _
    cases g.severity <;> rfl
  have hsuggestion : others.filter (fun g => !decide (g.severity = .warning)) =
      gaps.filter (·.severity = .suggestion) := by
    rw [List.filter_filter]
    apply List.filter_congr
    intro g _
    cases g.severity <;> rfl
  have hothers := List.filter_append_perm (fun g : Gap => decide (g.severity = .warning)) others
  rw [hwarning, hsuggestion] at hothers
  have hlists : (Severity.all.flatMap fun v => gaps.filter (·.severity = v)) =
      gaps.filter (·.severity = .critical) ++
        (gaps.filter (·.severity = .warning) ++ gaps.filter (·.severity = .suggestion)) := by
    simp [Severity.all]
  rw [hlists]
  exact (hothers.append_left _).trans (List.filter_append_perm _ gaps)

/-- A report holds the gaps that were found: each once and under its number, listed by severity in
the order of their numbers, counted and summed up. -/
structure Report.Holds (r : Report) (found : List Gap) : Prop where
  once : r.allGaps.Perm (found.zipIdx.map numbered)
  ids : (r.allGaps.map (·.id)).Nodup
  lists : ∀ v, r.ofSeverity v = (found.zipIdx.filter fun e => e.1.severity = v).map numbered
  total : r.total = found.length
  sum : r.total = (r.ofSeverity .critical).length + (r.ofSeverity .warning).length +
    (r.ofSeverity .suggestion).length
  summary : r.summary = summarize (r.ofSeverity .critical).length (r.ofSeverity .warning).length
    (r.ofSeverity .suggestion).length

theorem holds_number (t : Timestamp) (found : List Gap) :
    Report.Holds ⟨t, number found⟩ found := by
  have honce : (Report.allGaps ⟨t, number found⟩).Perm (number found) :=
    flatMap_filter_severity_perm (number found)
  refine ⟨?_, ?_, ?_, ?_, ?_, rfl⟩
  · rwa [← number_eq]
  · exact (honce.map _).nodup_iff.mpr (nodup_ids_number found)
  · intro v
    rw [Report.ofSeverity, number_eq, List.filter_map]
    rfl
  · rw [Report.total, number_eq, List.length_map, List.length_zipIdx]
  · have hlength := honce.length_eq
    simp only [Report.allGaps, Severity.all, List.flatMap_cons, List.flatMap_nil,
      List.length_append, List.length_nil] at hlength
    have htotal : Report.total ⟨t, number found⟩ = (number found).length := rfl
    omega

/-! ### The findings of the families -/

structure Findings where
  missing : List Gap
  uncovered : List Gap
  unconnected : List Gap

def Findings.all (x : Findings) : List Gap :=
  x.missing ++ x.uncovered ++ x.unconnected

/-- What each family finds where it is asked for. -/
structure Findings.Of (x : Findings) (o : Options) (s : Service) : Prop where
  missing : when o.checkFields (missingFields o s) = .ok x.missing
  uncovered : when o.checkValidation (validationGaps o s) = .ok x.uncovered
  unconnected : when (o.checkWorkflow && s.flow.isSome) (workflowGaps s) = .ok x.unconnected

/-- Options under which only some of the families that are asked for stay so. -/
def Options.keeping (o : Options) (fields validation workflow : Bool) : Options :=
  { o with
    checkFields := o.checkFields && fields
    checkValidation := o.checkValidation && validation
    checkWorkflow := o.checkWorkflow && workflow }

def Findings.keeping (x : Findings) (fields validation workflow : Bool) : Findings where
  missing := if fields then x.missing else []
  uncovered := if validation then x.uncovered else []
  unconnected := if workflow then x.unconnected else []

section

variable {o : Options} {s : Service}

theorem when_and {asked kept : Bool} {family : Attempt (List Gap)} {gaps : List Gap}
    (h : when asked family = .ok gaps) :
    when (asked && kept) family = .ok (if kept then gaps else []) := by
  cases kept with
  | true => rwa [Bool.and_true]
  | false => rw [Bool.and_false]; rfl

/-- No family looks at the switches. -/
theorem Findings.Of.keeping {x : Findings} (h : x.Of o s) (fields validation workflow : Bool) :
    (x.keeping fields validation workflow).Of (o.keeping fields validation workflow) s where
  missing := when_and h.missing
  uncovered := when_and h.uncovered
  unconnected := by
    have hand : when (o.checkWorkflow && s.flow.isSome && workflow) (workflowGaps s) =
        .ok (if workflow then x.unconnected else []) := when_and h.unconnected
    rwa [Bool.and_right_comm] at hand

theorem when_workflowGaps :
    when (o.checkWorkflow && s.flow.isSome) (workflowGaps s) =
      when o.checkWorkflow (workflowGaps s) := by
  unfold workflowGaps
  cases s.flow with
  | none => cases o.checkWorkflow <;> rfl
  | some p => rw [Option.isSome_some, Bool.and_true]

theorem analyze_eq_ok_iff {t : Timestamp} {r : Report} :
    analyze o s t = .ok r ↔ ∃ x : Findings, x.Of o s ∧ r = ⟨t, number x.all⟩ := by
  constructor
  · intro h
    obtain ⟨missing, hmissing, h⟩ := Attempt.bind_eq_ok.mp h
    obtain ⟨uncovered, huncovered, h⟩ := Attempt.bind_eq_ok.mp h
    obtain ⟨unconnected, hunconnected, h⟩ := Attempt.bind_eq_ok.mp h
    cases h
    exact ⟨⟨missing, uncovered, unconnected⟩,
      ⟨hmissing, huncovered, when_workflowGaps.trans hunconnected⟩, rfl⟩
  · rintro ⟨x, hx, rfl⟩
    have hunconnected := when_workflowGaps.symm.trans hx.unconnected
    rw [analyze, hx.missing, hx.uncovered, hunconnected]
    rfl

theorem when_isOk_iff {asked : Bool} {family : Attempt (List Gap)} :
    (∃ gaps, when asked family = .ok gaps) ↔ (asked = true → ∃ gaps, family = .ok gaps) := by
  cases asked with
  | true => exact ⟨fun h _ => h, fun h => h rfl⟩
  | false => exact ⟨fun _ h => absurd h Bool.false_ne_true, fun _ => ⟨[], rfl⟩⟩

theorem analyze_isOk_iff (hs : s.Textual) (ho : o.serviceType = .null ∨ o.serviceType.isText = true)
    (t : Timestamp) :
    (∃ r, analyze o s t = .ok r) ↔
      (o.checkWorkflow = true → ∀ p, s.flow = some p → Keyed p) := by
  rw [← workflowGaps_isOk_iff, ← when_isOk_iff, ← when_workflowGaps]
  constructor
  · rintro ⟨r, hr⟩
    obtain ⟨x, hx, -⟩ := analyze_eq_ok_iff.mp hr
    exact ⟨x.unconnected, hx.unconnected⟩
  · rintro ⟨unconnected, hunconnected⟩
    obtain ⟨missing, hmissing⟩ := when_isOk_iff.mpr fun _ => missingFields_isOk hs ho
    obtain ⟨uncovered, huncovered⟩ := when_isOk_iff.mpr fun _ => validationGaps_isOk o hs
    exact ⟨_, analyze_eq_ok_iff.mpr
      ⟨⟨missing, uncovered, unconnected⟩, ⟨hmissing, huncovered, hunconnected⟩, rfl⟩⟩

/-- An analysis is made unless the flow is asked for and has ids that are no keys. It reports just
what the families find, and with some families switched off just what the others find. -/
theorem analyze_reports (hs : s.Textual) (ho : o.serviceType = .null ∨ o.serviceType.isText = true)
    (t : Timestamp) :
    ((∃ r, analyze o s t = .ok r) ↔
        (o.checkWorkflow = true → ∀ p, s.flow = some p → Keyed p)) ∧
      ∀ r, analyze o s t = .ok r → ∃ x : Findings, x.Of o s ∧ r.Holds x.all ∧
        ∀ fields validation workflow, ∃ r',
          analyze (o.keeping fields validation workflow) s t = .ok r' ∧
            r'.Holds (x.keeping fields validation workflow).all := by
  refine ⟨analyze_isOk_iff hs ho t, ?_⟩
  intro r hr
  obtain ⟨x, hx, rfl⟩ := analyze_eq_ok_iff.mp hr
  refine ⟨x, hx, holds_number t x.all, ?_⟩
  intro fields validation workflow
  exact ⟨_, analyze_eq_ok_iff.mpr ⟨_, hx.keeping fields validation workflow, rfl⟩,
    holds_number t _⟩

end

/-! ### A bakery -/

def noon : Timestamp := ⟨⟨2024, 1, 15⟩, 12, 0, 0, 0, some 0⟩

theorem keyed_bakery : ∀ p, bakery.flow = some p → Keyed p := by
  intro p hp
  cases hp
  constructor <;> decide

theorem rules_analyze_bakery {r : Report} (h : analyze fullOptions bakery noon = .ok r) :
    r.gaps.map (·.rule) =
      ["contact_email", "stall", "text_length", "phone_format", "terminal_step", "dead_ends"] := by
  have hrun : (analyze fullOptions bakery noon).toOption.map
      (fun (r : Report) => r.gaps.map (·.rule)) = some ["contact_email", "stall", "text_length",
        "phone_format", "terminal_step", "dead_ends"] := by
    decide +kernel
  rw [h] at hrun
  exact Option.some.inj hrun

/-- Six gaps are found; without coverage the gaps of presence and of the flow are left. -/
theorem analyze_reports_bakery :
    bakery.Textual ∧ fullOptions.serviceType = .null ∧ (∀ p, bakery.flow = some p → Keyed p) ∧
      ∃ (r r' : Report) (x : Findings),
        analyze fullOptions bakery noon = .ok r ∧ x.Of fullOptions bakery ∧
        r.Holds x.all ∧ r.total = 6 ∧
        analyze (fullOptions.keeping true false true) bakery noon = .ok r' ∧
        r'.Holds (x.missing ++ [] ++ x.unconnected) := by
  have htype : fullOptions.serviceType = .null ∨ fullOptions.serviceType.isText = true := Or.inl rfl
  obtain ⟨hmade, hreports⟩ := analyze_reports textual_bakery htype noon
  obtain ⟨r, hr⟩ := hmade.mpr fun _ => keyed_bakery
  obtain ⟨x, hx, hholds, hkeeping⟩ := hreports r hr
  obtain ⟨r', hr', hholds'⟩ := hkeeping true false true
  have htotal : r.total = 6 := by
    rw [Report.total, ← List.length_map, rules_analyze_bakery hr]
    rfl
  exact ⟨textual_bakery, rfl, keyed_bakery, r, r', x, hr, hx, hholds, htotal, hr', hholds'⟩

end Gap

end ServiceBlueprint
