import Mathlib
import ServiceBlueprint.Proofs.Form.Verdict
import ServiceBlueprint.Proofs.Grouping

/-!
# Errors by field

The errors of a verdict are in order of their fields and, for one field, of their messages. So the
errors of a field stand together, and collecting the messages of each field neither loses nor moves
any: the groups, in ascending order of their fields, make up the errors again. Names of fields may
be repeated, and so may messages.
-/

namespace ServiceBlueprint.Form

/-- What an error says: its field and its message. -/
def SubmissionError.report (e : SubmissionError) : String × String :=
  (e.field.display, e.message)

/-! ### The order of errors -/

theorem orderNames?_text (s t : String) : orderNames? (.text s) (.text t) = some (compare s t) := by
  unfold orderNames?
  rw [Value.text_beq_text]
  by_cases hst : s = t
  · rw [if_pos (beq_iff_eq.mpr hst), compare_eq_iff_eq.mpr hst]
  · rw [if_neg fun h => hst (eq_of_beq h)]

/-- Under texts, errors are ordered as their reports are. -/
theorem order?_isLE_iff {a b : SubmissionError} (ha : a.field.isText = true)
    (hb : b.field.isText = true) :
    (a.order? b).any (·.isLE) = true ↔ toLex a.report ≤ toLex b.report := by
  have hnames : orderNames? a.field b.field = some (compare a.field.display b.field.display) := by
    rw [← orderNames?_text, Value.text_display ha, Value.text_display hb]
  have horder : a.order? b = some ((compare a.field.display b.field.display).then
      (compare a.message b.message)) := by
    unfold SubmissionError.order?
    rw [hnames]
    rfl
  have hmessages : (compare a.message b.message).isLE = true ↔ a.message ≤ b.message :=
    Std.LawfulBCmp.isLE_iff_le
  rw [horder, Option.any_some, Ordering.isLE_then_iff_or, compare_lt_iff_lt, compare_eq_iff_eq,
    hmessages, SubmissionError.report, SubmissionError.report, Prod.Lex.toLex_le_toLex]

theorem pairwise_of_sortErrors {errors es : List SubmissionError}
    (ht : ∀ e ∈ errors, e.field.isText = true) (h : sortErrors errors = .ok es) :
    es.Pairwise fun a b => toLex a.report ≤ toLex b.report := by
  have hsorted : es.map (toLex ·.report) =
      (errors.map (toLex ·.report)).mergeSort fun a b => decide (a ≤ b) := by
    unfold sortErrors at h
    split at h
    · cases h
      apply List.map_mergeSort
      intro a ha b hb
      rw [Bool.eq_iff_iff, decide_eq_true_iff]
      exact order?_isLE_iff (ht a ha) (ht b hb)
    · cases h
  apply List.pairwise_map.mp
  rw [hsorted]
  exact List.pairwise_mergeSort' (· ≤ ·) _

section

variable {form : Form} {c : CompiledForm} {data : Value} {v : Verdict}

/-! ### The errors of a verdict -/

/-- Errors are in order of field and then of message. -/
theorem Assembled.errors_sorted (hc : Assembled form c) (ht : form.TextNames)
    (h : judge c data = .ok v) :
    (∀ e ∈ v.errors, e.field.isText = true) ∧
      v.errors.Pairwise fun a b => toLex a.report ≤ toLex b.report := by
  obtain ⟨facts, values, -, -, hvalues, hsorted⟩ := of_judge h
  have htexts := hc.isText_field ht hvalues
  refine ⟨?_, pairwise_of_sortErrors htexts hsorted⟩
  intro e he
  exact htexts e ((perm_of_sortErrors hsorted).mem_iff.mp he)

/-- Errors with their messages, under the texts of their fields. -/
theorem map_field_eq_mapKeys {errors : List SubmissionError}
    (ht : ∀ e ∈ errors, e.field.isText = true) :
    (errors.map fun e => (e.field, e.message)) = Table.mapKeys .text (errors.map (·.report)) := by
  rw [Table.mapKeys, List.map_map]
  apply List.map_congr_left
  intro e he
  rw [Function.comp_apply, SubmissionError.report, Value.text_display (ht e he)]

/-- The groups of a verdict are those of its reports, under texts. -/
theorem errorsByField_eq (ht : ∀ e ∈ v.errors, e.field.isText = true) :
    v.errorsByField = (Table.group (v.errors.map (·.report))).mapKeys .text := by
  unfold Verdict.errorsByField
  rw [map_field_eq_mapKeys ht, Table.group_mapKeys Value.text_beq_text]

/-- The messages of each field are the errors again, field by field in strictly ascending order, and
there are some for each field that is listed. -/
theorem judge_groups_errors (h : form.compile = .ok c) (ht : form.TextNames) :
    (c.schema.check = .ok () → ∀ facts, ∃ v, judge c (.map facts) = .ok v) ∧
    ∀ data v, judge c data = .ok v →
      (∃ names : List String, v.errorsByField.keys = names.map .text ∧ names.Pairwise (· < ·)) ∧
        (v.errorsByField.ungroup = v.errors.map fun e => (e.field, e.message)) ∧
        ∀ g ∈ v.errorsByField, g.2 ≠ [] := by
  have hc := assembled_of_compile h
  constructor
  · intro hcheck facts
    apply hc.judge_isOk_of_entries ht
    intro e he w _
    obtain ⟨found, hfound, -⟩ := violations_eq_ok (checkProperty_of_check hcheck he) w
    exact ⟨found, hfound⟩
  · intro data v hv
    obtain ⟨htexts, hsorted⟩ := hc.errors_sorted ht hv
    have hascending : (v.errors.map (·.report)).Pairwise fun a b => a.1 ≤ b.1 := by
      rw [List.pairwise_map]
      exact hsorted.imp fun hab => Prod.Lex.monotone_fst _ _ hab
    have hgroups := Table.groups_group hascending
    rw [errorsByField_eq htexts, map_field_eq_mapKeys htexts, Table.ungroup_mapKeys,
      hgroups.ungroup, Table.keys_mapKeys]
    refine ⟨⟨_, rfl, hgroups.ascending⟩, rfl, ?_⟩
    intro g hg
    obtain ⟨g', hg', rfl⟩ := List.mem_map.mp hg
    exact hgroups.nonempty g' hg'

end

/-! ### A delivery -/

/-- Two fields ask for a name under one name, and the slot is one of two. -/
def delivery : Form :=
  let sender : Field := ⟨.text "1", .text "name", .text "Sender", "TEXT", true, .null, 0, [], none,
    true⟩
  let receiver : Field := ⟨.text "2", .text "name", .text "Receiver", "TEXT", true, .null, 1, [],
    none, true⟩
  let slot : Field := ⟨.text "3", .text "slot", .text "Slot", "SELECT", true, .null, 2,
    [(.text "options", .list [.map [(.text "value", .text "am")],
      .map [(.text "value", .text "pm")]])], none, true⟩
  ⟨.text "f", .text "Delivery", ⟨⟨2024, 1, 15⟩, 10, 30, 0, 0, some 0⟩, [sender, receiver, slot], []⟩

theorem judge_groups_errors_delivery :
    let data : Value := .map [(.text "slot", .int 9)]
    let groups : Table Value (List String) :=
      [(.text "name", [requiredMessage, requiredMessage]),
        (.text "slot", ["9 is not of type 'string'", "9 is not one of ['am', 'pm']"])]
    ∃ c v, delivery.compile = .ok c ∧ delivery.TextNames ∧ judge c data = .ok v ∧
      v.errorsByField = groups ∧ groups.keys = ["name", "slot"].map .text ∧
      groups.ungroup = v.errors.map fun e => (e.field, e.message) := by
  intro data groups
  have hrun : (do
      let c ← delivery.compile
      let v ← judge c data
      return v.errorsByField : Attempt (Table Value (List String))) = .ok groups := by
    cbv
  have htexts : delivery.TextNames := by
    decide
  obtain ⟨c, hcompile, hrun⟩ := Attempt.bind_eq_ok.mp hrun
  obtain ⟨v, hv, hrun⟩ := Attempt.bind_eq_ok.mp hrun
  have hgroups : v.errorsByField = groups := Except.ok.inj hrun
  obtain ⟨-, hjudged⟩ := judge_groups_errors hcompile htexts
  obtain ⟨-, hungroup, -⟩ := hjudged data v hv
  exact ⟨c, v, hcompile, htexts, hv, hgroups, rfl, hgroups ▸ hungroup⟩

end ServiceBlueprint.Form
