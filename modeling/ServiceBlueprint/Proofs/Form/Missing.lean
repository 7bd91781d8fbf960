import ServiceBlueprint.Proofs.Form.Messages
import ServiceBlueprint.Proofs.Form.Submission

/-!
# Reports of missing names

A missing name is reported under the first missing name whose quoted text occurs in its own. So
every missing name has its own report exactly if no quoted name occurs in that of a later one.
-/

namespace ServiceBlueprint.Form

/-! ### Quoted names in reports -/

/-- A part that ends in a character can end no later than where the character last occurs. -/
theorem infix_of_infix_append {part cs rest : List Char} {q : Char} (hq : q ∉ rest)
    (h : part ++ [q] <:+: cs ++ rest) : part ++ [q] <:+: cs := by
  obtain ⟨before, after, h⟩ := h
  rw [List.append_eq_append_iff] at h
  rcases h with ⟨more, rfl, -⟩ | ⟨more, hcs, rfl⟩
  · exact ⟨before, more, rfl⟩
  · rcases List.eq_nil_or_concat more with rfl | ⟨init, last, rfl⟩
    · exact ⟨before, [], by rw [List.append_nil, hcs, List.append_nil]⟩
    · rw [List.concat_eq_append] at hcs hq
      rw [← List.append_assoc, ← List.append_assoc] at hcs
      obtain ⟨-, hlast⟩ := List.append_inj' hcs rfl
      rw [List.singleton_inj.mp hlast] at hq
      exact absurd (by simp) hq

theorem quote_notMem_report (cs : List Char) :
    Text.quoteFor cs ∉ " is a required property".toList := by
  unfold Text.quoteFor
  split <;> decide

/-- A missing name is found in a report exactly if its quoted text occurs in the reported name's. -/
theorem occursIn_report_iff {m : Value} (hm : m.isText = true) (n : Value) :
    Value.occursIn m.literal.toList (n.literal ++ " is a required property").toList = true ↔
      m.literal.toList <:+: n.literal.toList := by
  obtain ⟨s, rfl⟩ := Value.exists_eq_text hm
  have hliteral : (Value.text s).literal.toList =
      (Text.quoteFor s.toList :: s.toList.flatMap (Text.escapeChar (Text.quoteFor s.toList))) ++
        [Text.quoteFor s.toList] := by
    rw [Value.literal, Text.quoted, String.toList_ofList]
    rfl
  rw [Value.occursIn_iff, String.toList_append, hliteral]
  constructor
  · exact infix_of_infix_append (quote_notMem_report s.toList)
  · exact List.infix_append_of_infix_left

/-! ### Which names have reports of their own -/

/-- No quoted name occurs in that of a later one. -/
def ToldApart (names : List Value) : Prop :=
  names.Pairwise fun m n => ¬ m.literal.toList <:+: n.literal.toList

theorem pairwise_iff_forall_append {α : Type} {R : α → α → Prop} {xs : List α} :
    xs.Pairwise R ↔ ∀ before x after, xs = before ++ x :: after → ∀ y ∈ before, R y x := by
  induction xs with
  | nil => simp
  | cons x xs ih =>
    rw [List.pairwise_cons, ih]
    constructor
    · rintro ⟨hfirst, hrest⟩ before y after heq z hz
      cases before with
      | nil => cases hz
      | cons w before =>
        obtain ⟨rfl, rfl⟩ := List.cons.inj heq
        rcases List.mem_cons.mp hz with rfl | hz
        · exact hfirst y (by simp)
        · exact hrest before y after rfl z hz
    · intro h
      constructor
      · intro y hy
        obtain ⟨before, after, rfl⟩ := List.append_of_mem hy
        exact h (x :: before) y after rfl x List.mem_cons_self
      · rintro before y after rfl z hz
        exact h (x :: before) y after rfl z (List.mem_cons_of_mem _ hz)

/-- A name is reported itself unless an earlier one is found in its report. -/
theorem reportedName?_append {before after : List Value} {n : Value} (htext : n.isText = true) :
    reportedName? (before ++ n :: after) n = (before.find? fun m => Value.occursIn m.literal.toList
      (n.literal ++ " is a required property").toList).or (some n) := by
  unfold reportedName?
  rw [List.find?_append]
  congr 1
  apply List.find?_cons_of_pos
  exact (occursIn_report_iff htext n).mpr List.infix_rfl

theorem reportedName?_eq_self_iff {before after : List Value} {n : Value}
    (htexts : ∀ m ∈ before ++ n :: after, m.isText = true) (hnot : n ∉ before) :
    reportedName? (before ++ n :: after) n = some n ↔
      ∀ m ∈ before, ¬ m.literal.toList <:+: n.literal.toList := by
  have htext : ∀ m ∈ before, m.isText = true :=
    fun m hm => htexts m (List.mem_append_left _ hm)
  rw [reportedName?_append (htexts n (by simp))]
  cases hfind : before.find? _ with
  | none =>
    rw [List.find?_eq_none] at hfind
    simp only [Option.none_or, true_iff]
    intro m hm
    rw [← occursIn_report_iff (htext m hm)]
    exact hfind m hm
  | some m =>
    have hm := List.mem_of_find?_eq_some hfind
    have hfound := List.find?_some hfind
    rw [Option.some_or]
    constructor
    · rintro heq
      cases heq
      exact absurd hm hnot
    · intro hapart
      exact absurd ((occursIn_report_iff (htext m hm) n).mp hfound) (hapart m hm)

theorem toldApart_iff {names : List Value} (htexts : ∀ n ∈ names, n.isText = true)
    (hnodup : names.Nodup) :
    ToldApart names ↔ ∀ n ∈ names, reportedName? names n = some n := by
  have hnot : ∀ before n after, names = before ++ n :: after → n ∉ before := by
    rintro before n after rfl hn
    exact (List.nodup_append.mp hnodup).2.2 n hn n List.mem_cons_self rfl
  unfold ToldApart
  rw [pairwise_iff_forall_append]
  constructor
  · intro h n hn
    obtain ⟨before, after, rfl⟩ := List.append_of_mem hn
    exact (reportedName?_eq_self_iff htexts (hnot _ _ _ rfl)).mpr (h _ _ _ rfl)
  · rintro h before n after rfl
    exact (reportedName?_eq_self_iff htexts (hnot _ _ _ rfl)).mp (h n (by simp))

theorem missingErrors_of_self {names : List Value}
    (h : ∀ n ∈ names, reportedName? names n = some n) :
    missingErrors names = names.map fun n => ⟨n, .missing⟩ := by
  unfold missingErrors
  rw [List.filterMap_eq_map_iff_forall_eq_some]
  intro n hn
  rw [h n hn]
  rfl

theorem mem_of_reportedName?_ne {before after : List Value} {n m : Value} (htext : n.isText = true)
    (h : reportedName? (before ++ n :: after) n = some m) (hne : m ≠ n) : m ∈ before := by
  rw [reportedName?_append htext] at h
  cases hfind : before.find? _ with
  | none =>
    rw [hfind, Option.none_or] at h
    exact absurd (Option.some.inj h).symm hne
  | some m' =>
    rw [hfind, Option.some_or] at h
    exact Option.some.inj h ▸ List.mem_of_find?_eq_some hfind

theorem countP_pos_of_reported {names part : List Value} {n m : Value} (hn : n ∈ part)
    (h : reportedName? names n = some m) :
    0 < (part.filterMap fun k => (reportedName? names k).map fun m =>
      SubmissionError.mk m .missing).countP (·.field = m) := by
  apply List.countP_pos_iff.mpr
  refine ⟨⟨m, .missing⟩, List.mem_filterMap.mpr ⟨n, hn, ?_⟩, by simp⟩
  rw [h]
  rfl

/-- If each name has one error, the first name reported under another would give that a second. -/
theorem self_of_countP_missingErrors {names : List Value} (htexts : ∀ n ∈ names, n.isText = true)
    (hone : ∀ n ∈ names, (missingErrors names).countP (·.field = n) = 1) :
    ∀ n ∈ names, reportedName? names n = some n := by
  cases hfind : names.find? fun n => reportedName? names n ≠ some n with
  | none =>
    intro n hn
    simpa using List.find?_eq_none.mp hfind n hn
  | some n =>
    obtain ⟨hbad, before, after, rfl, hgood⟩ := List.find?_eq_some_iff_append.mp hfind
    have hn : n ∈ before ++ n :: after := by simp
    obtain ⟨m, -, hm⟩ := reportedName?_isSome hn
    have hne : m ≠ n := by
      rintro rfl
      simp [hm] at hbad
    have hbefore := mem_of_reportedName?_ne (htexts n hn) hm hne
    have hself : reportedName? (before ++ n :: after) m = some m := by
      simpa using hgood m hbefore
    have hcount := hone m (List.mem_append_left _ hbefore)
    have hfirst := countP_pos_of_reported hbefore hself
    have hsecond := countP_pos_of_reported (List.mem_cons_self (a := n) (l := after)) hm
    unfold missingErrors at hcount
    rw [List.filterMap_append, List.countP_append] at hcount
    omega

/-! ### Each missing name with an error of its own -/

/-- The field is required and shown, and nothing is there at its name. -/
def Field.MissingIn (f : Field) (facts : Facts) (v : Verdict) : Prop :=
  f.required = true ∧ f.name ∉ v.hiddenFields ∧ facts.hasKey f.name = false

/-- Each missing field has exactly one error, in the required words, and no other field has any in
these words. -/
def ReportsMissing (form : Form) (facts : Facts) (v : Verdict) : Prop :=
  (∀ f ∈ form.activeFields, f.MissingIn facts v →
    ∃ e, v.errors.filter (·.field = f.name) = [e] ∧ e.message = requiredMessage) ∧
  ∀ e ∈ v.errors, e.message = requiredMessage →
    ∃ f ∈ form.activeFields, f.MissingIn facts v ∧ f.name = e.field

section

variable {form : Form} {c : CompiledForm} {facts : Facts} {v : Verdict}

theorem mem_missing_iff_missingIn (hn : form.DistinctNames) {n : Value} :
    n ∈ missing form v.hiddenFields facts ↔
      ∃ f ∈ form.activeFields, f.MissingIn facts v ∧ f.name = n := by
  rw [mem_missing_iff]
  constructor
  · rintro ⟨f, hf, hrequired, rfl, hkey⟩
    obtain ⟨hactive, hshown⟩ := (mem_shown_iff hn).mp hf
    exact ⟨f, hactive, ⟨hrequired, hshown, hkey⟩, rfl⟩
  · rintro ⟨f, hactive, ⟨hrequired, hshown, hkey⟩, rfl⟩
    exact ⟨f, (mem_shown_iff hn).mpr ⟨hactive, hshown⟩, hrequired, rfl, hkey⟩

theorem nodup_missing (hn : form.DistinctNames) (hidden : List Value) :
    (missing form hidden facts).Nodup := by
  apply List.Nodup.sublist _ hn.nodup
  apply List.filter_sublist.trans
  apply List.Sublist.map
  exact List.filter_sublist.trans List.filter_sublist

theorem isText_missing (hn : form.DistinctNames) (hidden : List Value) :
    ∀ n ∈ missing form hidden facts, n.isText = true := by
  intro n hmem
  obtain ⟨f, hf, -, rfl, -⟩ := mem_missing_iff.mp hmem
  exact hn.texts f ((mem_shown_iff hn).mp hf).1

theorem ne_missing_of_mem_violationsOf {p : Property} {w : Value} {violation : Violation}
    (h : violation ∈ violationsOf p w) : violation ≠ .missing := by
  unfold violationsOf at h
  cases hvs : violations p w with
  | error e =>
    rw [hvs] at h
    cases h
  | ok vs =>
    rw [hvs] at h
    obtain ⟨os, hos, hvs⟩ := Attempt.bind_eq_ok.mp hvs
    cases hvs
    obtain ⟨o, ho, rfl⟩ := List.mem_filterMap.mp h
    obtain ⟨k, -, hk⟩ := Attempt.exists_of_mem_mapM hos ho
    exact Keyword.violation_ne_missing hk

/-- Values that are there are reported under other names and in other words. -/
theorem of_mem_errorsAt {f : Field} {e : SubmissionError} (he : e ∈ errorsAt facts f) :
    facts.hasKey f.name = true ∧ e.field = f.name ∧ e.message ≠ requiredMessage := by
  have hfield := field_of_mem_errorsAt he
  unfold errorsAt at he
  unfold Table.hasKey
  cases hfind : facts.find? f.name with
  | none =>
    rw [hfind] at he
    cases he
  | some w =>
    rw [hfind] at he
    obtain ⟨violation, hmem, rfl⟩ := List.mem_map.mp he
    refine ⟨rfl, rfl, ?_⟩
    rw [SubmissionError.message, ne_eq, message_eq_requiredMessage_iff]
    exact ne_missing_of_mem_violationsOf hmem

theorem message_of_mem_missingErrors {names : List Value} {e : SubmissionError}
    (he : e ∈ missingErrors names) : e.message = requiredMessage := by
  obtain ⟨n, -, m, -, rfl⟩ := mem_missingErrors_iff.mp he
  rfl

/-- Errors of values are not under missing names. -/
theorem field_notMem_missing {hidden : List Value} {e : SubmissionError}
    (he : e ∈ (shown form hidden).flatMap (errorsAt facts)) :
    e.field ∉ missing form hidden facts := by
  intro hmem
  obtain ⟨f, -, he⟩ := List.mem_flatMap.mp he
  obtain ⟨hkey, hfield, -⟩ := of_mem_errorsAt he
  obtain ⟨g, -, -, -, hnone⟩ := mem_missing_iff.mp hmem
  rw [hfield, hkey] at hnone
  cases hnone

theorem countP_allErrors {hidden : List Value} {n : Value} (hn : n ∈ missing form hidden facts) :
    (allErrors form hidden facts).countP (·.field = n) =
      (missingErrors (missing form hidden facts)).countP (·.field = n) := by
  have hzero : ((shown form hidden).flatMap (errorsAt facts)).countP (·.field = n) = 0 := by
    rw [List.countP_eq_zero]
    intro e he heq
    exact field_notMem_missing he (of_decide_eq_true heq ▸ hn)
  rw [allErrors, List.countP_append, hzero, Nat.zero_add]

theorem countP_missingErrors_of_self {names : List Value} (hnodup : names.Nodup)
    (hself : ∀ n ∈ names, reportedName? names n = some n) {n : Value} (hn : n ∈ names) :
    (missingErrors names).countP (·.field = n) = 1 := by
  rw [missingErrors_of_self hself, List.countP_map]
  obtain ⟨before, after, rfl⟩ := List.append_of_mem hn
  obtain ⟨-, hcons, hapart⟩ := List.nodup_append.mp hnodup
  have hbefore : ∀ m ∈ before, m ≠ n := fun m hm => hapart m hm n List.mem_cons_self
  have hafter : ∀ m ∈ after, m ≠ n := by
    rintro m hm rfl
    exact (List.nodup_cons.mp hcons).1 hm
  have hzero : ∀ part : List Value, (∀ m ∈ part, m ≠ n) → part.countP
      ((fun e : SubmissionError => decide (e.field = n)) ∘ fun m => ⟨m, .missing⟩) = 0 := by
    intro part hpart
    rw [List.countP_eq_zero]
    exact fun m hm heq => hpart m hm (of_decide_eq_true heq)
  rw [List.countP_append, List.countP_cons_of_pos (by simp), hzero before hbefore,
    hzero after hafter]

/-- An error in the required words is one of a missing name. -/
theorem mem_missingErrors_of_message {hidden : List Value} {e : SubmissionError}
    (he : e ∈ allErrors form hidden facts) (hmessage : e.message = requiredMessage) :
    e ∈ missingErrors (missing form hidden facts) := by
  rcases List.mem_append.mp he with he | he
  · obtain ⟨f, -, he⟩ := List.mem_flatMap.mp he
    exact absurd hmessage (of_mem_errorsAt he).2.2
  · exact he

theorem mem_missingErrors_of_field {hidden : List Value} {e : SubmissionError}
    (he : e ∈ allErrors form hidden facts) (hfield : e.field ∈ missing form hidden facts) :
    e ∈ missingErrors (missing form hidden facts) := by
  rcases List.mem_append.mp he with he | he
  · exact absurd hfield (field_notMem_missing he)
  · exact he

theorem Compiled.reportsMissing_iff (hc : Compiled form c) (hn : form.DistinctNames)
    (hv : judge c (.map facts) = .ok v) :
    ReportsMissing form facts v ↔ ToldApart (missing form v.hiddenFields facts) := by
  have hperm := hc.errors_of_judge hn hv
  rw [toldApart_iff (isText_missing hn _) (nodup_missing hn _)]
  constructor
  · rintro ⟨hone, -⟩
    apply self_of_countP_missingErrors (isText_missing hn _)
    intro n hmem
    obtain ⟨f, hactive, hmissing, rfl⟩ := (mem_missing_iff_missingIn hn).mp hmem
    obtain ⟨e, he, -⟩ := hone f hactive hmissing
    rw [← countP_allErrors hmem, ← hperm.countP_eq, List.countP_eq_length_filter, he]
    rfl
  · intro hself
    constructor
    · intro f hactive hmissing
      have hmem := (mem_missing_iff_missingIn hn).mpr ⟨f, hactive, hmissing, rfl⟩
      have hcount := countP_missingErrors_of_self (nodup_missing hn _) hself hmem
      rw [← countP_allErrors hmem, ← hperm.countP_eq, List.countP_eq_length_filter] at hcount
      obtain ⟨e, he⟩ := List.length_eq_one_iff.mp hcount
      obtain ⟨hin, hfield⟩ := List.mem_filter.mp (he ▸ List.mem_singleton_self e)
      have hown : e.field ∈ missing form v.hiddenFields facts := of_decide_eq_true hfield ▸ hmem
      have hmissing := mem_missingErrors_of_field (hperm.mem_iff.mp hin) hown
      exact ⟨e, he, message_of_mem_missingErrors hmissing⟩
    · intro e he hmessage
      have hmissing := mem_missingErrors_of_message (hperm.mem_iff.mp he) hmessage
      exact (mem_missing_iff_missingIn hn).mp (field_of_mem_missingErrors hmissing)

/-- Every missing field has an error of its own exactly if no quoted missing name occurs in that of
a later one. -/
theorem judge_reportsMissing_iff (h : form.compile = .ok c) (hn : form.DistinctNames)
    (facts : Facts) :
    (c.schema.check = .ok () → ∃ v, judge c (.map facts) = .ok v) ∧
      ∀ v, judge c (.map facts) = .ok v →
        (ReportsMissing form facts v ↔ ToldApart (missing form v.hiddenFields facts)) := by
  have hc := compiled_of_compile h hn
  exact ⟨fun hcheck => hc.judge_eq_ok hn hcheck facts, fun v hv => hc.reportsMissing_iff hn hv⟩

end

theorem judge_reportsMissing_iff_survey : ∃ c v, survey.compile = .ok c ∧ survey.DistinctNames ∧
    c.schema.check = .ok () ∧ judge c (.map answers) = .ok v ∧
    (ReportsMissing survey answers v ↔ ToldApart (missing survey v.hiddenFields answers)) := by
  obtain ⟨c, hcompile, hcheck⟩ := survey_compiles
  obtain ⟨htotal, htold⟩ := judge_reportsMissing_iff hcompile distinctNames_survey answers
  obtain ⟨v, hv⟩ := htotal hcheck
  exact ⟨c, v, hcompile, distinctNames_survey, hcheck, hv, htold v hv⟩

/-- Two required fields; the name of the second is that of the first in quotes. -/
def twins : Form :=
  ⟨.text "f", .text "Twins", ⟨⟨2024, 1, 15⟩, 10, 30, 0, 0, some 0⟩,
    [⟨.text "1", .text "a", .text "a", "TEXT", true, .null, 0, [], none, true⟩,
      ⟨.text "2", .text "'a'", .text "'a'", "TEXT", true, .null, 0, [], none, true⟩], []⟩

theorem activeFields_twins : twins.activeFields = twins.fields := by
  cbv

theorem distinctNames_twins : twins.DistinctNames := by
  decide

/-- What is said of the twins when nothing is submitted: both errors are under the first name. -/
theorem judge_twins : ∃ c v, twins.compile = .ok c ∧ c.schema.check = .ok () ∧
    judge c (.map []) = .ok v ∧ v.errors.map (·.field) = [.text "a", .text "a"] ∧
    v.hiddenFields = [] := by
  have hjudge : (do
      let c ← twins.compile
      let _ ← c.schema.check
      let v ← judge c (.map [])
      return (v.errors.map (·.field), v.hiddenFields) : Attempt (List Value × List Value)) =
        .ok ([.text "a", .text "a"], []) := by
    cbv
  obtain ⟨c, hcompile, h⟩ := Attempt.bind_eq_ok.mp hjudge
  obtain ⟨u, hcheck, h⟩ := Attempt.bind_eq_ok.mp h
  obtain ⟨v, hv, h⟩ := Attempt.bind_eq_ok.mp h
  obtain ⟨hfields, hhidden⟩ := Prod.mk.inj (Except.ok.inj h)
  exact ⟨c, v, hcompile, hcheck, hv, hfields, hhidden⟩

theorem not_reportsMissing_twins : ∃ c v, twins.compile = .ok c ∧ twins.DistinctNames ∧
    c.schema.check = .ok () ∧ judge c (.map []) = .ok v ∧ ¬ ReportsMissing twins [] v := by
  obtain ⟨c, v, hcompile, hcheck, hv, hfields, hhidden⟩ := judge_twins
  refine ⟨c, v, hcompile, distinctNames_twins, hcheck, hv, ?_⟩
  rintro ⟨hone, -⟩
  obtain ⟨f, hf, hname, hrequired⟩ : ∃ f ∈ twins.activeFields, f.name = .text "'a'" ∧
      f.required = true := by
    rw [activeFields_twins]
    exact ⟨_, List.mem_cons_of_mem _ List.mem_cons_self, rfl, rfl⟩
  obtain ⟨e, he, -⟩ := hone f hf ⟨hrequired, by rw [hhidden]; exact List.not_mem_nil, rfl⟩
  obtain ⟨hin, hfield⟩ := List.mem_filter.mp (he ▸ List.mem_singleton_self e)
  have hmem : e.field ∈ v.errors.map (·.field) := List.mem_map.mpr ⟨e, hin, rfl⟩
  rw [hfields, of_decide_eq_true hfield, hname] at hmem
  exact absurd hmem (by simp)

end ServiceBlueprint.Form
