import ServiceBlueprint.Proofs.Form.Messages
import ServiceBlueprint.Proofs.Form.Submission

/-!
# Blank values in valid submissions

A valid submission has a value at the name of every shown required field, and the value is not null.
It may still be a blank text, which counts as no value where single values are checked. That happens
only for types that take texts of any kind, and it is all that can be blank.
-/

namespace ServiceBlueprint.Form

/-- Numbers, truth values, addresses of mail and dates are never blank. -/
def Field.MayBeBlank (f : Field) : Prop :=
  f.type? ∉ [some .number, some .checkbox, some .email, some .date]

/-- No shown required field is asked for when its value is checked by itself. -/
def LeavesNoneBlank (form : Form) (facts : Facts) (v : Verdict) : Prop :=
  ∀ f ∈ form.activeFields, f.required = true → f.name ∉ v.hiddenFields →
    ∀ complaint, f.check (facts.valueAt f.name) = .ok (some complaint) →
      complaint.message ≠ requiredMessage

/-! ### What a value without violations is -/

theorem violation?_of_violations {p : Property} {v : Value} (h : violations p v = .ok []) :
    ∀ k ∈ p, k.violation? v = .ok none := by
  intro k hk
  obtain ⟨os, hos, h⟩ := Attempt.bind_eq_ok.mp h
  obtain ⟨o, ho, hfound⟩ := Attempt.exists_mem_of_mapM hos hk
  have hnone := List.filterMap_eq_nil_iff.mp (Except.ok.inj h) o ho
  rw [hfound, hnone]

theorem FindsUnless.admitted {found : Attempt (Option Violation)} {admitted : Prop}
    (h : FindsUnless found admitted) (hnone : found = .ok none) : admitted := by
  obtain ⟨o, ho, hiff⟩ := h
  rw [ho] at hnone
  exact hiff.mp (Except.ok.inj hnone)

theorem Field.mem_of_schema {f : Field} {p : Property} (h : f.schema = .ok p) :
    .type f.dataType ∈ p ∧ ∃ ks, f.constraints = .ok ks ∧ ∀ k ∈ ks, k ∈ p := by
  unfold Field.schema at h
  obtain ⟨ks, hks, h⟩ := Attempt.bind_eq_ok.mp h
  rw [← Except.ok.inj h]
  refine ⟨List.mem_cons_self, ks, hks, ?_⟩
  intro k hk
  apply List.mem_cons_of_mem
  apply List.mem_cons_of_mem
  exact List.mem_append_left _ (List.mem_append_right _ hk)

/-- Only the type of texts takes blank values, and null is not among them. -/
theorem exists_text_of_blank {t : DataType} {v : Value} (hv : Blank v)
    (h : (Keyword.type t).Admits v) :
    t = .string ∧ ∃ s, v = .text s ∧ ∀ ch ∈ s.toList, Text.isBlank ch = true := by
  rcases hv with rfl | ⟨s, rfl, hs⟩
  · cases t with
    | string =>
      obtain ⟨s, hs⟩ := h
      cases hs
    | number => cases h
    | boolean =>
      obtain ⟨b, hb⟩ := h
      cases hb
  · cases t with
    | string => exact ⟨rfl, s, rfl, hs⟩
    | number => cases h
    | boolean =>
      obtain ⟨b, hb⟩ := h
      cases hb

theorem not_admits_of_blank {format : Format} (hne : format ≠ .dataUrl) {s : String}
    (hs : ∀ ch ∈ s.toList, Text.isBlank ch = true) : format.admits s ≠ true := by
  intro h
  cases format with
  | email =>
    have hat : '@' ∈ s.toList := List.contains_iff_mem.mp h
    exact absurd (hs '@' hat) (by decide)
  | date =>
    obtain ⟨hshape, -⟩ := Bool.and_eq_true_iff.mp h
    obtain ⟨ys, ms, ds, hchars, -⟩ := isDateShape_iff.mp hshape
    have hdash : '-' ∈ s.toList := by
      rw [hchars]
      simp
    exact absurd (hs '-' hdash) (by decide)
  | dataUrl => exact hne rfl

/-- A blank value that violates nothing of a field's property is a text, and its type takes any. -/
theorem Field.mayBeBlank_of_violations {f : Field} {p : Property} (h : f.schema = .ok p) {v : Value}
    (hv : violations p v = .ok []) (hblank : Blank v) :
    f.MayBeBlank ∧ ∃ s, v = .text s ∧ ∀ ch ∈ s.toList, Text.isBlank ch = true := by
  have hnone := violation?_of_violations hv
  obtain ⟨htype, ks, hks, hmem⟩ := Field.mem_of_schema h
  -- the type has to stay closed: unfolding it would read the name of the type
  generalize hd : f.dataType = d at htype
  obtain ⟨rfl, s, rfl, hs⟩ :=
    exists_text_of_blank hblank ((findsUnless_type d v).admitted (hnone _ htype))
  refine ⟨?_, s, rfl, hs⟩
  have hformat : ∀ format, .format format ∈ ks → format = .dataUrl := by
    intro format hk
    have hadmits := (findsUnless_format format (.text s)).admitted (hnone _ (hmem _ hk))
    by_contra hne
    exact not_admits_of_blank hne hs (hadmits s rfl)
  unfold Field.MayBeBlank
  unfold Field.dataType at hd
  unfold Field.constraints at hks
  generalize f.type? = t at hd hks ⊢
  intro ht
  simp only [List.mem_cons, List.not_mem_nil, or_false] at ht
  rcases ht with rfl | rfl | rfl | rfl
  · cases hd
  · cases hd
  · cases hks
    exact absurd (hformat .email List.mem_cons_self) (by decide)
  · cases hks
    exact absurd (hformat .date List.mem_cons_self) (by decide)

/-! ### What a valid submission has -/

section

variable {form : Form} {c : CompiledForm} {facts : Facts} {v : Verdict}

/-- Each shown required field has a value, and no value at a shown field violates anything. -/
theorem Compiled.of_valid (hc : Compiled form c) (hn : form.DistinctNames)
    (hv : judge c (.map facts) = .ok v) (hvalid : v.valid = true) {f : Field}
    (hf : f ∈ form.activeFields) (hshown : f.name ∉ v.hiddenFields) :
    (f.required = true → facts.hasKey f.name = true) ∧
      ∀ w, facts.find? f.name = some w → violations f.ownProperty w = .ok [] := by
  have hmem := (mem_shown_iff hn).mpr ⟨hf, hshown⟩
  obtain ⟨hvalues, hmissing⟩ := (valid_iff_allErrors (hc.errors_of_judge hn hv)).mp hvalid
  refine ⟨missing_eq_nil_iff.mp hmissing f hmem, ?_⟩
  intro w hw
  have hfound := hc.attemptAt_of_judge hn hv hmem
  rw [hvalues f hmem, attemptAt, hw] at hfound
  obtain ⟨vs, hvs, hnone⟩ := Attempt.bind_eq_ok.mp hfound
  rw [hvs, List.map_eq_nil_iff.mp (Except.ok.inj hnone)]

/-- A valid submission leaves a shown required field blank exactly if it gives one that may be blank
a text of blanks only. -/
theorem judge_valid_leavesNoneBlank_iff (h : form.compile = .ok c) (hn : form.DistinctNames)
    (facts : Facts) :
    (c.schema.check = .ok () → ∃ v, judge c (.map facts) = .ok v) ∧
      ∀ v, judge c (.map facts) = .ok v → v.valid = true →
        (LeavesNoneBlank form facts v ↔
          ∀ f ∈ form.activeFields, f.required = true → f.name ∉ v.hiddenFields → f.MayBeBlank →
            ∀ s, facts.find? f.name = some (.text s) → Text.isBlankText s = false) := by
  have hc := compiled_of_compile h hn
  refine ⟨fun hcheck => hc.judge_eq_ok hn hcheck facts, ?_⟩
  intro v hv hvalid
  constructor
  · intro hnone f hf hrequired hshown _ s hs
    rw [← Bool.not_eq_true]
    intro hblank
    have hcheck : f.check (facts.valueAt f.name) = .ok (some .required) := by
      rw [Field.check_eq_required_iff, Facts.valueAt, hs]
      exact ⟨hblank, hrequired⟩
    exact hnone f hf hrequired hshown .required hcheck rfl
  · intro hall f hf hrequired hshown complaint hcheck hmessage
    rw [Complaint.message_eq_requiredMessage_iff] at hmessage
    rw [hmessage, Field.check_eq_required_iff, isBlank_iff] at hcheck
    obtain ⟨hkey, hviolations⟩ := hc.of_valid hn hv hvalid hf hshown
    obtain ⟨w, hw⟩ := Option.isSome_iff_exists.mp (hkey hrequired)
    have hblank : Blank w := by
      rw [Facts.valueAt, hw] at hcheck
      exact hcheck.1
    obtain ⟨hmay, s, rfl, hs⟩ :=
      Field.mayBeBlank_of_violations (hc.schemas f hf) (hviolations w hw) hblank
    have hnot := hall f hf hrequired hshown hmay s hw
    rw [Text.isBlankText, List.all_eq_true.mpr hs] at hnot
    cases hnot

end

theorem judge_valid_leavesNoneBlank_iff_survey :
    let facts : Facts := [(.text "mode", .text "some"), (.text "note", .text "none")]
    ∃ c v, survey.compile = .ok c ∧ survey.DistinctNames ∧ c.schema.check = .ok () ∧
      judge c (.map facts) = .ok v ∧ v.valid = true ∧ LeavesNoneBlank survey facts v := by
  intro facts
  have hrun : (do
      let c ← survey.compile
      let _ ← c.schema.check
      let v ← judge c (.map facts)
      return v.valid : Attempt Bool) = .ok true := by
    cbv
  obtain ⟨c, hcompile, hrun⟩ := Attempt.bind_eq_ok.mp hrun
  obtain ⟨u, hcheck, hrun⟩ := Attempt.bind_eq_ok.mp hrun
  obtain ⟨v, hv, hrun⟩ := Attempt.bind_eq_ok.mp hrun
  have hvalid : v.valid = true := Except.ok.inj hrun
  obtain ⟨-, hiff⟩ := judge_valid_leavesNoneBlank_iff hcompile distinctNames_survey facts
  refine ⟨c, v, hcompile, distinctNames_survey, hcheck, hv, hvalid, (hiff v hv hvalid).mpr ?_⟩
  rw [activeFields_survey]
  intro f hf _ _ _ s hs
  obtain ⟨e, he, -, hvalue⟩ := Table.mem_of_find? hs
  have hnone : ∀ e ∈ facts, ∀ s, e.2 = .text s → Text.isBlankText s = false := by
    intro e he s hs
    simp only [facts, List.mem_cons, List.not_mem_nil, or_false] at he
    rcases he with rfl | rfl
    · cases hs
      decide
    · cases hs
      decide
  exact hnone e he s hvalue

/-- A blank note passes, though a note is required. -/
theorem not_leavesNoneBlank_survey :
    let facts : Facts := [(.text "mode", .text "some"), (.text "note", .text " ")]
    ∃ c v, survey.compile = .ok c ∧ survey.DistinctNames ∧ c.schema.check = .ok () ∧
      judge c (.map facts) = .ok v ∧ v.valid = true ∧ ¬ LeavesNoneBlank survey facts v := by
  intro facts
  have hrun : (do
      let c ← survey.compile
      let _ ← c.schema.check
      let v ← judge c (.map facts)
      return (v.valid, v.hiddenFields) : Attempt (Bool × List Value)) =
        .ok (true, [.text "count"]) := by
    cbv
  obtain ⟨c, hcompile, hrun⟩ := Attempt.bind_eq_ok.mp hrun
  obtain ⟨u, hcheck, hrun⟩ := Attempt.bind_eq_ok.mp hrun
  obtain ⟨v, hv, hrun⟩ := Attempt.bind_eq_ok.mp hrun
  obtain ⟨hvalid, hhidden⟩ := Prod.mk.inj (Except.ok.inj hrun)
  refine ⟨c, v, hcompile, distinctNames_survey, hcheck, hv, hvalid, ?_⟩
  intro hnone
  obtain ⟨f, hf, hname, hrequired⟩ : ∃ f ∈ survey.activeFields, f.name = .text "note" ∧
      f.required = true := by
    rw [activeFields_survey]
    exact ⟨_, List.mem_cons_of_mem _ (List.mem_cons_of_mem _ List.mem_cons_self), rfl, rfl⟩
  have hblank : isBlank (facts.valueAt f.name) = true := by
    rw [hname]
    decide
  have hcheck : f.check (facts.valueAt f.name) = .ok (some .required) :=
    Field.check_eq_required_iff.mpr ⟨hblank, hrequired⟩
  have hshown : f.name ∉ v.hiddenFields := by
    rw [hname, hhidden]
    simp
  exact hnone f hf hrequired hshown .required hcheck rfl

end ServiceBlueprint.Form
