import Mathlib
import ServiceBlueprint.Proofs.Form.Verdict

/-!
# What a verdict says

The hidden fields of a verdict are those that stored rules hide, and a submission is valid exactly
if every field that is not hidden has what it requires and a value it admits.
-/

namespace ServiceBlueprint.Form

/-- The hidden fields are the names, in ascending order and each once, of just the active fields
that stored rules hide. A form with a well-formed schema reports them for all values. -/
theorem judge_reports_hidden {form : Form} {c : CompiledForm} (h : form.compile = .ok c)
    (hi : form.DistinctIds) (hn : form.DistinctNames)
    (hs : ∀ s ∈ form.activeSections, s.id.isText = true) (facts : Facts) :
    ∃ names : List String, hiddenFields c (.map facts) = .ok (names.map .text) ∧
      names.Pairwise (· < ·) ∧
      (∀ n, n ∈ names ↔ ∃ f ∈ form.activeFields, f.name = .text n ∧ f.HiddenBy form facts) ∧
      (∀ v, judge c (.map facts) = .ok v → v.hiddenFields = names.map .text) ∧
      (c.schema.check = .ok () → ∃ v, judge c (.map facts) = .ok v) := by
  have hc := compiled_of_compile h hn
  obtain ⟨names, hnames, hpairwise, hmem⟩ := hc.hiddenFields_eq_ok hn facts
  refine ⟨names, hnames, hpairwise, ?_, ?_, ?_⟩
  · intro n
    rw [hmem, hc.mem_concealed_iff hn hi hs]
  · intro v hv
    have heq := hiddenFields_of_judge hv
    rw [hnames] at heq
    exact (Except.ok.inj heq).symm
  · exact fun hcheck => hc.judge_eq_ok hn hcheck facts

/-! ### A survey -/

/-- The count is asked for in one mode only, and the notes are once there is a mode. -/
def survey : Form :=
  let mode : Field := ⟨.text "1", .text "mode", .text "Mode", "TEXT", true, .null, 0,
    [(.text "minLength", .int 2)], none, true⟩
  let count : Field := ⟨.text "2", .text "count", .text "Count", "NUMBER", false, .null, 1,
    [(.text "max", .int 9)], some ⟨.text "1", "equals", .text "many"⟩, true⟩
  let note : Field := ⟨.text "3", .text "note", .text "Note", "TEXTAREA", true, .text "s", 2,
    [], none, true⟩
  let notes : Section := ⟨.text "s", .text "Notes", .null, 0,
    some ⟨.text "1", "isNotEmpty", .null⟩, true⟩
  ⟨.text "f", .text "Survey", ⟨⟨2024, 1, 15⟩, 10, 30, 0, 0, some 0⟩, [mode, count, note], [notes]⟩

def answers : Facts := [(.text "mode", .text "m")]

theorem survey_compiles : ∃ c, survey.compile = .ok c ∧ c.schema.check = .ok () :=
  Attempt.bind_eq_ok.mp (by cbv)

theorem activeFields_survey : survey.activeFields = survey.fields := by
  cbv

theorem activeSections_survey : survey.activeSections = survey.sections := by
  cbv

theorem distinctIds_survey : survey.DistinctIds := by
  constructor
  · rw [activeFields_survey]
    decide
  · rw [activeFields_survey]
    decide

theorem distinctNames_survey : survey.DistinctNames := by
  decide

theorem judge_reports_hidden_survey : ∃ c v, survey.compile = .ok c ∧ survey.DistinctIds ∧
    survey.DistinctNames ∧ (∀ s ∈ survey.activeSections, s.id.isText = true) ∧
    c.schema.check = .ok () ∧ judge c (.map answers) = .ok v ∧
    ∃ names : List String, v.hiddenFields = names.map .text ∧ names.Pairwise (· < ·) ∧
      ∀ n, n ∈ names ↔ ∃ f ∈ survey.activeFields, f.name = .text n ∧ f.HiddenBy survey answers := by
  obtain ⟨c, hcompile, hcheck⟩ := survey_compiles
  have hs : ∀ s ∈ survey.activeSections, s.id.isText = true := by
    rw [activeSections_survey]
    decide
  obtain ⟨names, -, hpairwise, hmem, hreported, htotal⟩ :=
    judge_reports_hidden hcompile distinctIds_survey distinctNames_survey hs answers
  obtain ⟨v, hv⟩ := htotal hcheck
  exact ⟨c, v, hcompile, distinctIds_survey, distinctNames_survey, hs, hcheck, hv, names,
    hreported v hv, hpairwise, hmem⟩

/-! ### Valid submissions -/

theorem valid_iff_allErrors {form : Form} {v : Verdict} {facts : Facts}
    (h : v.errors.Perm (allErrors form v.hiddenFields facts)) :
    v.valid = true ↔ (∀ f ∈ shown form v.hiddenFields, errorsAt facts f = []) ∧
      missing form v.hiddenFields facts = [] := by
  rw [Verdict.valid, List.isEmpty_iff, ← List.length_eq_zero_iff, h.length_eq,
    List.length_eq_zero_iff, allErrors, List.append_eq_nil_iff, List.flatMap_eq_nil_iff,
    missingErrors_eq_nil_iff]

/-- A submission is valid exactly if each field that is not hidden has a value where one is required
and admits the value it has. No error names a hidden field. -/
theorem judge_valid_iff {form : Form} {c : CompiledForm} (h : form.compile = .ok c)
    (hn : form.DistinctNames) (hcheck : c.schema.check = .ok ()) (facts : Facts) :
    ∃ v, judge c (.map facts) = .ok v ∧
      (v.valid = true ↔ ∀ f ∈ form.activeFields, f.name ∉ v.hiddenFields →
        (f.required = true → facts.hasKey f.name = true) ∧
          ∀ w, facts.find? f.name = some w → f.Admissible w) ∧
      ∀ e ∈ v.errors, e.field ∉ v.hiddenFields := by
  have hc := compiled_of_compile h hn
  obtain ⟨v, hv⟩ := hc.judge_eq_ok hn hcheck facts
  have hperm := hc.errors_of_judge hn hv
  refine ⟨v, hv, ?_, ?_⟩
  · rw [valid_iff_allErrors hperm]
    constructor
    · rintro ⟨hvalues, hmissing⟩ f hf hshown
      have hmem := (mem_shown_iff hn).mpr ⟨hf, hshown⟩
      refine ⟨?_, (errorsAt_eq_nil_iff hc hcheck hf).mp (hvalues f hmem)⟩
      intro hrequired
      rw [← Bool.not_eq_false]
      intro hkey
      have hin := mem_missing_iff.mpr ⟨f, hmem, hrequired, rfl, hkey⟩
      rw [hmissing] at hin
      exact List.not_mem_nil hin
    · intro hall
      refine ⟨?_, List.eq_nil_iff_forall_not_mem.mpr ?_⟩
      · intro f hmem
        obtain ⟨hf, hshown⟩ := (mem_shown_iff hn).mp hmem
        exact (errorsAt_eq_nil_iff hc hcheck hf).mpr (hall f hf hshown).2
      · intro n hin
        obtain ⟨f, hmem, hrequired, rfl, hkey⟩ := mem_missing_iff.mp hin
        obtain ⟨hf, hshown⟩ := (mem_shown_iff hn).mp hmem
        rw [(hall f hf hshown).1 hrequired] at hkey
        cases hkey
  · intro e he
    obtain ⟨f, hf, hname⟩ := field_of_mem_allErrors (hperm.mem_iff.mp he)
    rw [← hname]
    exact ((mem_shown_iff hn).mp hf).2

theorem judge_valid_iff_survey : ∃ c, survey.compile = .ok c ∧ survey.DistinctNames ∧
    c.schema.check = .ok () ∧
    ∃ v, judge c (.map answers) = .ok v ∧
      (v.valid = true ↔ ∀ f ∈ survey.activeFields, f.name ∉ v.hiddenFields →
        (f.required = true → answers.hasKey f.name = true) ∧
          ∀ w, answers.find? f.name = some w → f.Admissible w) ∧
      ∀ e ∈ v.errors, e.field ∉ v.hiddenFields := by
  obtain ⟨c, hcompile, hcheck⟩ := survey_compiles
  exact ⟨c, hcompile, distinctNames_survey, hcheck,
    judge_valid_iff hcompile distinctNames_survey hcheck answers⟩

example :
    (do let c ← survey.compile; judge c (.map answers)).toOption.map
        (fun (v : Verdict) => v.errorsByField) =
      some [(.text "mode", ["'m' is too short"]), (.text "note", [requiredMessage])] := by
  cbv

end ServiceBlueprint.Form
