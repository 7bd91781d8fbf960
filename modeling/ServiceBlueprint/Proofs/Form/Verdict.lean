import ServiceBlueprint.Proofs.Form.Admission
import ServiceBlueprint.Proofs.Form.Hiding

/-!
# Judging a submission

A submission to a compiled form whose schema is well formed always gets a verdict. Its errors are,
up to their order, those of the values at the names of shown fields and those of the names that are
missing, and each is reported under the name of a shown field.
-/

namespace ServiceBlueprint.Form

/-- The active fields whose names are not hidden. -/
def shown (form : Form) (hidden : List Value) : List Field :=
  form.activeFields.filter fun f => !hidden.contains f.name

def violationsOf (p : Property) (v : Value) : List Violation :=
  (violations p v).toOption.getD []

/-- The errors of the value at the name of a field, if there is one. -/
def errorsAt (facts : Facts) (f : Field) : List SubmissionError :=
  match facts.find? f.name with
  | none => []
  | some v => (violationsOf f.ownProperty v).map fun violation => ⟨f.name, violation⟩

/-- The names of shown required fields without a value. -/
def missing (form : Form) (hidden : List Value) (facts : Facts) : List Value :=
  (((shown form hidden).filter (·.required)).map (·.name)).filter fun n => !facts.hasKey n

section

variable {form : Form} {c : CompiledForm} {hidden : List Value} {facts : Facts}

theorem mem_shown_iff (hn : form.DistinctNames) {f : Field} :
    f ∈ shown form hidden ↔ f ∈ form.activeFields ∧ f.name ∉ hidden := by
  unfold shown
  rw [List.mem_filter]
  apply and_congr_right
  intro hf
  rw [Bool.not_eq_true', ← Bool.not_eq_true, Value.contains_iff_mem (hn.texts f hf)]

/-! ### What is not hidden -/

theorem Compiled.without_properties (hc : Compiled form c) :
    without hidden c.schema.properties =
      (shown form hidden).map fun f => (f.name, f.ownProperty) := by
  unfold without shown
  rw [hc.properties, List.filter_map]
  rfl

theorem Compiled.shown_required (hc : Compiled form c) :
    (c.schema.required.filter fun n => !hidden.contains n) =
      ((shown form hidden).filter (·.required)).map (·.name) := by
  unfold shown
  rw [hc.required, List.filter_map, List.filter_filter, List.filter_filter]
  congr 1
  apply List.filter_congr
  intro f _
  exact Bool.and_comm _ _

theorem find?_without_eq (k : Value) :
    (without hidden facts).find? k = if hidden.contains k then none else facts.find? k := by
  have hsame : ∀ a b : Value, (a == b) = true → (!hidden.contains a) = !hidden.contains b := by
    intro a b hab
    simp only [List.contains_eq_any_beq, BEq.congr_left hab]
  unfold without
  rw [Table.find?_filter facts (fun k => !hidden.contains k) hsame]
  cases hidden.contains k <;> rfl

theorem find?_without {k : Value} (hk : k.isText = true) (hin : k ∉ hidden) :
    (without hidden facts).find? k = facts.find? k := by
  rw [find?_without_eq, if_neg]
  rwa [Value.contains_iff_mem hk]

theorem missingNames_without (hn : form.DistinctNames) :
    missingNames (((shown form hidden).filter (·.required)).map (·.name)) (without hidden facts) =
      missing form hidden facts := by
  apply List.filter_congr
  intro n hmem
  obtain ⟨f, hf, rfl⟩ := List.mem_map.mp hmem
  obtain ⟨hactive, hin⟩ := (mem_shown_iff hn).mp (List.mem_of_mem_filter hf)
  unfold Table.hasKey
  rw [find?_without (hn.texts f hactive) hin]

/-! ### The errors found -/

/-- A well-formed schema has well-formed properties. -/
theorem checkProperty_of_check {s : Schema} (h : s.check = .ok ()) {e : Value × Property}
    (he : e ∈ s.properties) : checkProperty e.2 = .ok () :=
  (Schema.check_eq_ok_iff.mp h).2.2 e he

theorem Compiled.violations_eq_ok (hc : Compiled form c) (hcheck : c.schema.check = .ok ())
    {f : Field} (hf : f ∈ form.activeFields) (v : Value) :
    violations f.ownProperty v = .ok (violationsOf f.ownProperty v) ∧
      (violationsOf f.ownProperty v = [] ↔ f.Admissible v) := by
  have hmem : (f.name, f.ownProperty) ∈ c.schema.properties := by
    rw [hc.properties]
    exact List.mem_map.mpr ⟨f, hf, rfl⟩
  have hadmits := Field.admits_iff (hc.schemas f hf) v
  generalize f.ownProperty = p at hmem hadmits ⊢
  obtain ⟨vs, hvs, hnil⟩ := Form.violations_eq_ok (checkProperty_of_check hcheck hmem) v
  have hof : violationsOf p v = vs := by rw [violationsOf, hvs]; rfl
  rw [hof]
  exact And.intro hvs (hnil.trans hadmits)

/-- The attempt to find the errors of the value at the name of a field. -/
def attemptAt (facts : Facts) (f : Field) : Attempt (List SubmissionError) :=
  match facts.find? f.name with
  | none => .ok []
  | some v => do return (← violations f.ownProperty v).map fun violation => ⟨f.name, violation⟩

theorem eq_errorsAt_of_attemptAt {f : Field} {es : List SubmissionError}
    (h : attemptAt facts f = .ok es) : es = errorsAt facts f := by
  unfold attemptAt at h
  unfold errorsAt violationsOf
  generalize facts.find? f.name = found at h ⊢
  cases found with
  | none => exact (Except.ok.inj h).symm
  | some v =>
    obtain ⟨vs, hvs, h⟩ := Attempt.bind_eq_ok.mp h
    simp only [hvs]
    exact (Except.ok.inj h).symm

/-- What is attempted for the entries of the schema is attempted for the shown fields. -/
theorem Compiled.valueErrors_eq (hc : Compiled form c) (hn : form.DistinctNames) :
    valueErrors (without hidden c.schema.properties) (without hidden facts) =
      (do return (← (shown form hidden).mapM (attemptAt facts)).flatten) := by
  unfold valueErrors
  rw [hc.without_properties, List.mapM_map]
  congr 1
  apply Attempt.mapM_congr
  intro f hf
  obtain ⟨hactive, hin⟩ := (mem_shown_iff hn).mp hf
  have htext := hn.texts f hactive
  unfold attemptAt
  cases hfind : facts.find? f.name with
  | none => simp only [Function.comp_apply, find?_without htext hin, hfind]
  | some v =>
    simp only [Function.comp_apply, find?_without htext hin, hfind, Value.text_display htext]

theorem Compiled.eq_of_valueErrors (hc : Compiled form c) (hn : form.DistinctNames)
    {es : List SubmissionError}
    (h : valueErrors (without hidden c.schema.properties) (without hidden facts) = .ok es) :
    es = (shown form hidden).flatMap (errorsAt facts) := by
  rw [hc.valueErrors_eq hn] at h
  obtain ⟨ess, hess, h⟩ := Attempt.bind_eq_ok.mp h
  obtain ⟨rfl, -⟩ := Attempt.mapM_eq_ok hess fun f _ es hes => eq_errorsAt_of_attemptAt hes
  rw [List.flatMap_def]
  exact (Except.ok.inj h).symm

theorem errorsAt_eq_nil_iff (hc : Compiled form c) (hcheck : c.schema.check = .ok ()) {f : Field}
    (hf : f ∈ form.activeFields) :
    errorsAt facts f = [] ↔ ∀ w, facts.find? f.name = some w → f.Admissible w := by
  unfold errorsAt
  cases facts.find? f.name with
  | none => simp
  | some v =>
    rw [List.map_eq_nil_iff, (hc.violations_eq_ok hcheck hf v).2]
    simp

theorem field_of_mem_errorsAt {f : Field} {e : SubmissionError} (he : e ∈ errorsAt facts f) :
    e.field = f.name := by
  unfold errorsAt at he
  split at he
  · cases he
  · obtain ⟨violation, -, rfl⟩ := List.mem_map.mp he
    rfl

/-! ### The entries of the schema -/

/-- What is looked for at one entry of the schema. -/
def entryErrors (data : Facts) (e : Value × Property) : Attempt (List SubmissionError) :=
  match data.find? e.1 with
  | none => .ok []
  | some v => do return (← violations e.2 v).map fun violation => ⟨.text e.1.display, violation⟩

theorem valueErrors_eq_mapM (properties : Table Value Property) (data : Facts) :
    valueErrors properties data =
      (do return (← properties.mapM (entryErrors data)).flatten) :=
  rfl

theorem field_of_entryErrors {e : Value × Property} (ht : e.1.isText = true)
    {es : List SubmissionError} (h : entryErrors facts e = .ok es) : ∀ x ∈ es, x.field = e.1 := by
  unfold entryErrors at h
  generalize facts.find? e.1 = found at h
  cases found with
  | none =>
    cases h
    exact fun x hx => absurd hx List.not_mem_nil
  | some v =>
    obtain ⟨vs, -, h⟩ := Attempt.bind_eq_ok.mp h
    cases h
    intro x hx
    obtain ⟨violation, -, rfl⟩ := List.mem_map.mp hx
    exact Value.text_display ht

/-! ### The names that are missing -/

/-- What is reported for missing names. -/
def missingErrors (names : List Value) : List SubmissionError :=
  names.filterMap fun n => (reportedName? names n).map fun m => ⟨m, .missing⟩

/-- Each missing name is found in the report of its own at the latest. -/
theorem reportedName?_isSome {names : List Value} {n : Value} (h : n ∈ names) :
    ∃ m ∈ names, reportedName? names n = some m := by
  unfold reportedName?
  cases hfind : names.find? _ with
  | none =>
    have hnot := List.find?_eq_none.mp hfind n h
    rw [Value.occursIn_iff] at hnot
    exact absurd ⟨[], " is a required property".toList, by simp [String.toList_append]⟩ hnot
  | some m => exact ⟨m, List.mem_of_find?_eq_some hfind, rfl⟩

theorem mem_missingErrors_iff {names : List Value} {e : SubmissionError} :
    e ∈ missingErrors names ↔
      ∃ n ∈ names, ∃ m, reportedName? names n = some m ∧ ⟨m, .missing⟩ = e := by
  unfold missingErrors
  simp only [List.mem_filterMap, Option.map_eq_some_iff]

theorem missingErrors_eq_nil_iff {names : List Value} : missingErrors names = [] ↔ names = [] := by
  constructor
  · intro h
    cases names with
    | nil => rfl
    | cons n ns =>
      obtain ⟨m, -, hm⟩ := reportedName?_isSome (List.mem_cons_self (a := n) (l := ns))
      have hmem := mem_missingErrors_iff.mpr ⟨n, List.mem_cons_self, m, hm, rfl⟩
      rw [h] at hmem
      exact absurd hmem List.not_mem_nil
  · rintro rfl
    rfl

theorem field_of_mem_missingErrors {names : List Value} {e : SubmissionError}
    (he : e ∈ missingErrors names) : e.field ∈ names := by
  obtain ⟨n, -, m, hm, rfl⟩ := mem_missingErrors_iff.mp he
  exact List.mem_of_find?_eq_some hm

theorem mem_missing_iff {n : Value} :
    n ∈ missing form hidden facts ↔ ∃ f ∈ shown form hidden, f.required = true ∧ f.name = n ∧
      facts.hasKey n = false := by
  unfold missing
  rw [List.mem_filter, List.mem_map, Bool.not_eq_true']
  constructor
  · rintro ⟨⟨f, hf, rfl⟩, hkey⟩
    obtain ⟨hf, hrequired⟩ := List.mem_filter.mp hf
    exact ⟨f, hf, hrequired, rfl, hkey⟩
  · rintro ⟨f, hf, hrequired, rfl, hkey⟩
    exact ⟨⟨f, List.mem_filter.mpr ⟨hf, hrequired⟩, rfl⟩, hkey⟩

theorem missing_eq_nil_iff :
    missing form hidden facts = [] ↔
      ∀ f ∈ shown form hidden, f.required = true → facts.hasKey f.name = true := by
  rw [List.eq_nil_iff_forall_not_mem]
  simp only [mem_missing_iff, not_exists, not_and, Bool.not_eq_false]
  constructor
  · exact fun h f hf hrequired => h f.name f hf hrequired rfl
  · rintro h n f hf hrequired rfl
    exact h f hf hrequired

theorem requiredErrors_eq (hc : Compiled form c) (hn : form.DistinctNames) :
    requiredErrors (c.schema.required.filter fun n => !hidden.contains n) (without hidden facts) =
      missingErrors (missing form hidden facts) := by
  unfold requiredErrors
  rw [hc.shown_required, missingNames_without hn]
  rfl

/-! ### The verdict -/

theorem sortErrors_eq_ok {errors : List SubmissionError} (h : ∀ e ∈ errors, e.field.isText = true) :
    ∃ es, sortErrors errors = .ok es := by
  have hordered : (errors.all fun a => errors.all fun b => (a.order? b).isSome) = true := by
    rw [List.all_eq_true]
    intro a ha
    rw [List.all_eq_true]
    intro b hb
    obtain ⟨s, hs⟩ := Value.exists_eq_text (h a ha)
    obtain ⟨t, ht⟩ := Value.exists_eq_text (h b hb)
    unfold SubmissionError.order? orderNames?
    rw [hs, ht]
    split <;> rfl
  unfold sortErrors
  rw [if_pos hordered]
  exact ⟨_, rfl⟩

theorem perm_of_sortErrors {errors es : List SubmissionError} (h : sortErrors errors = .ok es) :
    es.Perm errors := by
  unfold sortErrors at h
  split at h
  · cases h
    exact List.mergeSort_perm _ _
  · cases h

/-- The errors of a submission before they are ordered. -/
def allErrors (form : Form) (hidden : List Value) (facts : Facts) : List SubmissionError :=
  (shown form hidden).flatMap (errorsAt facts) ++ missingErrors (missing form hidden facts)

/-- Each error is reported under the name of a field that is shown. -/
theorem field_of_mem_allErrors {e : SubmissionError} (he : e ∈ allErrors form hidden facts) :
    ∃ f ∈ shown form hidden, f.name = e.field := by
  rcases List.mem_append.mp he with he | he
  · obtain ⟨f, hf, he⟩ := List.mem_flatMap.mp he
    exact ⟨f, hf, (field_of_mem_errorsAt he).symm⟩
  · obtain ⟨f, hf, -, hname, -⟩ := mem_missing_iff.mp (field_of_mem_missingErrors he)
    exact ⟨f, hf, hname⟩

/-- What a verdict is made of. -/
theorem of_judge {data : Value} {v : Verdict} (h : judge c data = .ok v) :
    ∃ facts values, factsOf data = .ok facts ∧ hiddenFields c data = .ok v.hiddenFields ∧
      valueErrors (without v.hiddenFields c.schema.properties) (without v.hiddenFields facts) =
        .ok values ∧
      sortErrors (values ++ requiredErrors
        (c.schema.required.filter fun n => !v.hiddenFields.contains n)
        (without v.hiddenFields facts)) = .ok v.errors := by
  obtain ⟨hidden, hhidden, h⟩ := Attempt.bind_eq_ok.mp h
  obtain ⟨facts, hfacts, h⟩ := Attempt.bind_eq_ok.mp h
  obtain ⟨values, hvalues, h⟩ := Attempt.bind_eq_ok.mp h
  obtain ⟨errors, hsorted, h⟩ := Attempt.bind_eq_ok.mp h
  cases h
  exact ⟨facts, values, hfacts, hhidden, hvalues, hsorted⟩

theorem hiddenFields_of_judge {data : Value} {v : Verdict} (h : judge c data = .ok v) :
    hiddenFields c data = .ok v.hiddenFields := by
  obtain ⟨facts, values, -, hhidden, -⟩ := of_judge h
  exact hhidden

theorem Compiled.errors_of_judge (hc : Compiled form c) (hn : form.DistinctNames) {v : Verdict}
    (h : judge c (.map facts) = .ok v) : v.errors.Perm (allErrors form v.hiddenFields facts) := by
  obtain ⟨facts', values, hfacts, -, hvalues, hsorted⟩ := of_judge h
  cases hfacts
  rw [requiredErrors_eq hc hn, hc.eq_of_valueErrors hn hvalues] at hsorted
  exact perm_of_sortErrors hsorted

/-- There is a verdict only if the errors at every shown field could be found. -/
theorem Compiled.attemptAt_of_judge (hc : Compiled form c) (hn : form.DistinctNames) {v : Verdict}
    (h : judge c (.map facts) = .ok v) {f : Field} (hf : f ∈ shown form v.hiddenFields) :
    attemptAt facts f = .ok (errorsAt facts f) := by
  obtain ⟨facts', values, hfacts, -, hvalues, -⟩ := of_judge h
  cases hfacts
  rw [hc.valueErrors_eq hn] at hvalues
  obtain ⟨ess, hess, -⟩ := Attempt.bind_eq_ok.mp hvalues
  obtain ⟨es, -, hes⟩ := Attempt.exists_mem_of_mapM hess hf
  rw [hes, eq_errorsAt_of_attemptAt hes]

/-- Errors are reported under names of active fields, so under texts, also where names repeat. -/
theorem Assembled.isText_field (hc : Assembled form c) (ht : form.TextNames)
    {values : List SubmissionError}
    (h : valueErrors (without hidden c.schema.properties) facts = .ok values) :
    ∀ e ∈ values ++ requiredErrors (c.schema.required.filter fun n => !hidden.contains n) facts,
      e.field.isText = true := by
  rw [valueErrors_eq_mapM] at h
  obtain ⟨ess, hess, h⟩ := Attempt.bind_eq_ok.mp h
  cases h
  intro e he
  rcases List.mem_append.mp he with he | he
  · obtain ⟨es, hes, he⟩ := List.mem_flatten.mp he
    obtain ⟨entry, hentry, hfound⟩ := Attempt.exists_of_mem_mapM hess hes
    have htext := hc.isText_entry ht (List.mem_of_mem_filter hentry)
    rw [field_of_entryErrors htext hfound e he]
    exact htext
  · have hname := List.mem_of_mem_filter (List.mem_of_mem_filter (field_of_mem_missingErrors he))
    rw [hc.required] at hname
    obtain ⟨g, hg, hname⟩ := List.mem_map.mp hname
    rw [← hname]
    exact ht g (List.mem_of_mem_filter hg)

/-- A submission gets a verdict if its values can be compared with the properties of the schema. -/
theorem Assembled.judge_isOk_of_entries (hc : Assembled form c) (ht : form.TextNames)
    (h : ∀ e ∈ c.schema.properties, ∀ w, facts.find? e.1 = some w →
      ∃ found, violations e.2 w = .ok found) :
    ∃ verdict, judge c (.map facts) = .ok verdict := by
  obtain ⟨names, hhidden, -⟩ := hc.hiddenFields_eq_ok ht facts
  generalize names.map Value.text = hidden at hhidden
  have hentries : ∀ e ∈ without hidden c.schema.properties,
      ∃ es, entryErrors (without hidden facts) e = .ok es := by
    intro e he
    unfold entryErrors
    rw [find?_without_eq]
    by_cases hin : hidden.contains e.1
    · exact ⟨[], by rw [if_pos hin]⟩
    · rw [if_neg hin]
      cases hfind : facts.find? e.1 with
      | none => exact ⟨[], rfl⟩
      | some w =>
        obtain ⟨found, hfound⟩ := h e (List.mem_of_mem_filter he) w hfind
        simp only [hfound]
        exact ⟨_, rfl⟩
  obtain ⟨ess, hess⟩ := Attempt.mapM_isOk_iff.mpr hentries
  have hvalues : valueErrors (without hidden c.schema.properties) (without hidden facts) =
      .ok ess.flatten := by
    rw [valueErrors_eq_mapM, hess]
    rfl
  obtain ⟨errors, hsorted⟩ := sortErrors_eq_ok (hc.isText_field ht hvalues)
  refine ⟨⟨errors, hidden⟩, ?_⟩
  unfold judge
  rw [hhidden]
  apply Attempt.bind_eq_ok.mpr
  refine ⟨_, rfl, Attempt.bind_eq_ok.mpr ⟨facts, rfl, ?_⟩⟩
  apply Attempt.bind_eq_ok.mpr
  exact ⟨_, hvalues, Attempt.bind_eq_ok.mpr ⟨errors, hsorted, rfl⟩⟩

/-- A submission gets a verdict if the values of active fields can be compared with their
properties. -/
theorem Assembled.judge_isOk (hc : Assembled form c) (ht : form.TextNames)
    (h : ∀ g ∈ form.activeFields, ∀ w, facts.find? g.name = some w →
      ∃ found, violations g.ownProperty w = .ok found) :
    ∃ verdict, judge c (.map facts) = .ok verdict := by
  apply hc.judge_isOk_of_entries ht
  intro e he w hfind
  obtain ⟨g, hg, rfl⟩ := hc.mem_properties ht he
  dsimp only at hfind ⊢
  exact h g hg w hfind

/-- Where the schema is well formed nothing fails. -/
theorem Compiled.judge_eq_ok (hc : Compiled form c) (hn : form.DistinctNames)
    (hcheck : c.schema.check = .ok ()) (facts : Facts) : ∃ v, judge c (.map facts) = .ok v :=
  hc.judge_isOk hn.textNames fun _ hg w _ => ⟨_, (hc.violations_eq_ok hcheck hg w).1⟩

end

end ServiceBlueprint.Form
