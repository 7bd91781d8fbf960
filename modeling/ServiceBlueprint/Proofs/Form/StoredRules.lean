import Mathlib
import ServiceBlueprint.Proofs.Form.Hiding

/-!
# What becomes of stored rules

The rule of an active field or section is exported under the name of its source, or listed as
unresolved because no active field has the id of its source, or dropped because its operator is
unknown. The first two are said of an owner without regard to how ids are looked up, and the export
and the list of unresolved rules are read off the owners one by one.
-/

namespace ServiceBlueprint.Form

/-! ### Lists of what some elements have -/

/-- The second list has one element for each element of the first that is related to any, and
nothing else, in the same order. -/
inductive Lists {α β : Type} (R : α → β → Prop) : List α → List β → Prop where
  | nil : Lists R [] []
  | entry {x y xs ys} (hxy : R x y) (h : Lists R xs ys) : Lists R (x :: xs) (y :: ys)
  | skip {x xs ys} (hx : ∀ y, ¬ R x y) (h : Lists R xs ys) : Lists R (x :: xs) ys

theorem lists_filterMap {α β : Type} {R : α → β → Prop} {f : α → Option β} {xs : List α}
    (h : ∀ x ∈ xs, ∀ y, f x = some y ↔ R x y) : Lists R xs (xs.filterMap f) := by
  induction xs with
  | nil => exact .nil
  | cons x xs ih =>
    obtain ⟨hfirst, hrest⟩ := List.forall_mem_cons.mp h
    cases hx : f x with
    | none =>
      rw [List.filterMap_cons_none hx]
      refine .skip (fun y hy => ?_) (ih hrest)
      rw [← hfirst, hx] at hy
      cases hy
    | some y =>
      rw [List.filterMap_cons_some hx]
      exact .entry ((hfirst y).mp hx) (ih hrest)

/-! ### Sources and operators -/

/-- The ids of active fields and the sources of rules are texts. -/
structure TextIds (form : Form) : Prop where
  fields : ∀ f ∈ form.activeFields, f.id.isText = true
  sources : ∀ o ∈ owners form, ∀ rule, o.rule = some rule → rule.source.isText = true

theorem TextIds.hasKeys {form : Form} (hids : form.TextIds) : hasKeys form = true := by
  unfold Form.hasKeys
  rw [Bool.and_eq_true, List.all_eq_true, List.all_eq_true]
  refine ⟨fun f hf => Value.isKey_of_isText (hids.fields f hf), ?_⟩
  intro o ho
  rw [Option.all_eq_true]
  exact fun rule hrule => Value.isKey_of_isText (hids.sources o ho rule hrule)

/-- The field has the id, and no field after it does. -/
def LastWithId (fields : List Field) (id : Value) (f : Field) : Prop :=
  ∃ before after, fields = before ++ f :: after ∧ f.id = id ∧ ∀ g ∈ after, g.id ≠ id

section

variable {fields : List Field} {id : Value}

theorem fieldById?_eq_some_iff_last (hid : id.isText = true) {f : Field} :
    fieldById? fields id = some f ↔ LastWithId fields id f := by
  unfold fieldById? LastWithId
  rw [List.find?_eq_some_iff_append]
  simp only [Bool.not_eq_true', ← Bool.not_eq_true, Value.beq_iff_eq_of_isText_right hid]
  constructor
  · rintro ⟨hf, after, before, hfields, hafter⟩
    refine ⟨before.reverse, after.reverse, ?_, hf, fun g hg => hafter g (List.mem_reverse.mp hg)⟩
    rw [← List.reverse_inj, hfields]
    simp
  · rintro ⟨before, after, rfl, hf, hafter⟩
    refine ⟨hf, after.reverse, before.reverse, by simp, ?_⟩
    exact fun g hg => hafter g (List.mem_reverse.mp hg)

theorem fieldById?_eq_none_iff (hid : id.isText = true) :
    fieldById? fields id = none ↔ ∀ f ∈ fields, f.id ≠ id := by
  unfold fieldById?
  rw [List.find?_eq_none]
  simp only [List.mem_reverse, Value.beq_iff_eq_of_isText_right hid, ne_eq]

theorem LastWithId.mem {f : Field} (h : LastWithId fields id f) : f ∈ fields ∧ f.id = id := by
  obtain ⟨before, after, rfl, hf, -⟩ := h
  exact ⟨by simp, hf⟩

end

theorem RuleOperator.ofName?_eq_some_iff (s : String) (op : RuleOperator) :
    RuleOperator.ofName? s = some op ↔ s = op.name :=
  find?_name_eq_some_iff (fun op => by cases op <;> rfl) s op

theorem VisibilityRule.operator?_eq_some_iff {rule : VisibilityRule} {op : RuleOperator} :
    rule.operator? = some op ↔ rule.writtenOperator = op.name :=
  RuleOperator.ofName?_eq_some_iff rule.writtenOperator op

theorem VisibilityRule.operator?_eq_none_iff {rule : VisibilityRule} :
    rule.operator? = none ↔ ∀ op : RuleOperator, rule.writtenOperator ≠ op.name := by
  rw [Option.eq_none_iff_forall_not_mem]
  simp only [Option.mem_def, VisibilityRule.operator?_eq_some_iff, ne_eq]

/-! ### The three cases -/

/-- What becomes of a stored rule. -/
inductive Fate where
  | exported (r : ExportedRule)
  | unresolved (source : Value)
  | unknown

/-- An owner has a rule, and this becomes of it. -/
inductive Owner.Meets (form : Form) (o : Owner) : Fate → Prop where
  | exported {rule : VisibilityRule} {source : Field} {op : RuleOperator} (h : o.rule = some rule)
      (hsource : LastWithId form.activeFields rule.source source)
      (hop : rule.writtenOperator = op.name) :
      o.Meets form (.exported ⟨o.id, o.name,
        ⟨source.name, op.exported, if op.testsEmptiness then .text "" else rule.value⟩⟩)
  | unresolved {rule : VisibilityRule} (h : o.rule = some rule)
      (hnone : ∀ f ∈ form.activeFields, f.id ≠ rule.source) :
      o.Meets form (.unresolved rule.source)
  | unknown {rule : VisibilityRule} {source : Field} (h : o.rule = some rule)
      (hsource : LastWithId form.activeFields rule.source source)
      (hop : ∀ op : RuleOperator, rule.writtenOperator ≠ op.name) :
      o.Meets form .unknown

/-- The same as found by looking up the source and the operator. -/
def Owner.fateOf (form : Form) (o : Owner) (rule : VisibilityRule) : Fate :=
  match fieldById? form.activeFields rule.source, rule.operator? with
  | none, _ => .unresolved rule.source
  | some source, some op => .exported ⟨o.id, o.name,
      ⟨source.name, op.exported, if op.testsEmptiness then .text "" else rule.value⟩⟩
  | some _, none => .unknown

section

variable {form : Form} {o : Owner} {rule : VisibilityRule}

theorem meets_iff_fateOf (hrule : o.rule = some rule) (hsource : rule.source.isText = true)
    {fate : Fate} : o.Meets form fate ↔ o.fateOf form rule = fate := by
  unfold Owner.fateOf
  constructor
  · rintro (⟨h, hlast, hop⟩ | ⟨h, hnone⟩ | ⟨h, hlast, hop⟩)
    · obtain rfl := Option.some.inj (hrule.symm.trans h)
      rw [(fieldById?_eq_some_iff_last hsource).mpr hlast,
        VisibilityRule.operator?_eq_some_iff.mpr hop]
    · obtain rfl := Option.some.inj (hrule.symm.trans h)
      rw [(fieldById?_eq_none_iff hsource).mpr hnone]
    · obtain rfl := Option.some.inj (hrule.symm.trans h)
      rw [(fieldById?_eq_some_iff_last hsource).mpr hlast,
        VisibilityRule.operator?_eq_none_iff.mpr hop]
  · rintro rfl
    cases hfind : fieldById? form.activeFields rule.source with
    | none => exact .unresolved hrule ((fieldById?_eq_none_iff hsource).mp hfind)
    | some source =>
      have hlast := (fieldById?_eq_some_iff_last hsource).mp hfind
      cases hop : rule.operator? with
      | none => exact .unknown hrule hlast (VisibilityRule.operator?_eq_none_iff.mp hop)
      | some op => exact .exported hrule hlast (VisibilityRule.operator?_eq_some_iff.mp hop)

/-- One of the three becomes of every rule, and no two. -/
theorem existsUnique_fate (hrule : o.rule = some rule) (hsource : rule.source.isText = true) :
    ∃! fate, o.Meets form fate := by
  refine ⟨o.fateOf form rule, (meets_iff_fateOf hrule hsource).mpr rfl, ?_⟩
  intro fate h
  exact ((meets_iff_fateOf hrule hsource).mp h).symm

theorem exported?_iff_meets (hsource : ∀ rule, o.rule = some rule → rule.source.isText = true)
    {r : ExportedRule} :
    o.exported? form.activeFields = some r ↔ o.Meets form (.exported r) := by
  rw [exported?_eq_some_iff]
  constructor
  · rintro ⟨rule, hrule, condition, hcondition, rfl⟩
    obtain ⟨source, hfind, op, hop, rfl⟩ := condition?_eq_some_iff.mp hcondition
    rw [fieldById?_eq_some_iff_last (hsource rule hrule)] at hfind
    exact .exported hrule hfind (VisibilityRule.operator?_eq_some_iff.mp hop)
  · intro h
    cases h with
    | exported hrule hlast hop =>
      rw [← fieldById?_eq_some_iff_last (hsource _ hrule)] at hlast
      rw [← VisibilityRule.operator?_eq_some_iff] at hop
      exact ⟨_, hrule, _, condition?_eq_some_iff.mpr ⟨_, hlast, _, hop, rfl⟩, rfl⟩

theorem mem_owners_of_mem {kind : TargetKind} (ho : o ∈ ownersOf form kind) : o ∈ owners form := by
  cases kind with
  | field => exact List.mem_append_left _ ho
  | «section» => exact List.mem_append_right _ ho

/-- The owner with the source of its rule, if no active field has that for its id. -/
def Owner.unresolved? (o : Owner) (form : Form) : Option (Owner × Value) := do
  let r ← o.rule
  if (fieldById? form.activeFields r.source).isNone then some (o, r.source) else none

theorem unresolved?_iff_meets (hsource : ∀ rule, o.rule = some rule → rule.source.isText = true)
    {entry : Owner × Value} :
    o.unresolved? form = some entry ↔ o = entry.1 ∧ o.Meets form (.unresolved entry.2) := by
  unfold Owner.unresolved?
  simp only [Option.bind_eq_bind, Option.bind_eq_some_iff, Option.ite_none_right_eq_some,
    Option.isNone_iff_eq_none, Option.some.injEq]
  constructor
  · rintro ⟨rule, hrule, hfind, rfl⟩
    exact ⟨rfl, .unresolved hrule ((fieldById?_eq_none_iff (hsource rule hrule)).mp hfind)⟩
  · obtain ⟨o', source⟩ := entry
    rintro ⟨rfl, h⟩
    cases h with
    | unresolved hrule hnone =>
      exact ⟨_, hrule, (fieldById?_eq_none_iff (hsource _ hrule)).mpr hnone, rfl⟩

end

/-! ### The export and the list of unresolved rules -/

/-- Each rule of an active field or section is exported, unresolved or of an unknown operator, and
only one of these. The export lists those of the first kind, with the name of the last active field
that has the id of the source, and the unresolved are those of the second. Both are in the order of
the active fields and sections. -/
theorem stored_rules_sorted_out {form : Form} (hids : form.TextIds) :
    ∃ e unresolved, exportRules form = .ok e ∧ unresolvedRules form = .ok unresolved ∧
      (∀ o ∈ ownersOf form .field ++ ownersOf form .section, o.rule.isSome = true →
        ∃! fate, o.Meets form fate) ∧
      (∀ kind, Lists (fun o r => o.Meets form (.exported r)) (ownersOf form kind) (e.rules kind)) ∧
      Lists (fun o entry => o = entry.1 ∧ o.Meets form (.unresolved entry.2))
        (ownersOf form .field ++ ownersOf form .section) unresolved := by
  have hkeys : hasKeys form = true := hids.hasKeys
  have hsources : ∀ kind, ∀ o ∈ ownersOf form kind,
      ∀ rule, o.rule = some rule → rule.source.isText = true :=
    fun kind o ho => hids.sources o (mem_owners_of_mem ho)
  refine ⟨_, _, if_pos hkeys, if_pos hkeys, ?_, ?_, ?_⟩
  · intro o ho hrule
    obtain ⟨rule, hrule⟩ := Option.isSome_iff_exists.mp hrule
    exact existsUnique_fate hrule (hids.sources o ho rule hrule)
  · intro kind
    rw [rules_eq_filterMap rfl rfl]
    exact lists_filterMap fun o ho r => exported?_iff_meets (hsources kind o ho)
  · exact lists_filterMap fun o ho entry => unresolved?_iff_meets (hids.sources o ho)

/-! ### A library -/

/-- Two fields share an id, so that the second is the source of its own rule. The shelf depends on an
inactive field, and the due date asks for an operator that there is not. -/
def library : Form :=
  let member : Field := ⟨.text "1", .text "member", .text "Member", "TEXT", true, .null, 0, [],
    none, true⟩
  let title : Field := ⟨.text "1", .text "title", .text "Title", "TEXT", true, .null, 1, [],
    some ⟨.text "1", "isNotEmpty", .null⟩, true⟩
  let shelf : Field := ⟨.text "2", .text "shelf", .text "Shelf", "TEXT", false, .null, 2, [],
    some ⟨.text "3", "equals", .text "yes"⟩, true⟩
  let lent : Field := ⟨.text "3", .text "lent", .text "Lent", "TEXT", false, .null, 3, [],
    none, false⟩
  let due : Field := ⟨.text "4", .text "due", .text "Due", "DATE", false, .null, 4, [],
    some ⟨.text "1", "before", .text "2024"⟩, true⟩
  let notes : Section := ⟨.text "s", .text "Notes", .null, 0,
    some ⟨.text "2", "contains", .text "b"⟩, true⟩
  ⟨.text "f", .text "Library", ⟨⟨2024, 1, 15⟩, 10, 30, 0, 0, some 0⟩,
    [member, title, shelf, lent, due], [notes]⟩

theorem textIds_library : library.TextIds := by
  constructor
  · have hfields : library.activeFields.all (·.id.isText) = true := by cbv
    exact List.all_eq_true.mp hfields
  · have howners : (owners library).all (fun o => o.rule.all (·.source.isText)) = true := by cbv
    intro o ho
    have hrule := List.all_eq_true.mp howners o ho
    rwa [Option.all_eq_true] at hrule

theorem stored_rules_sorted_out_library : library.TextIds ∧
    ∃ e unresolved, exportRules library = .ok e ∧ unresolvedRules library = .ok unresolved ∧
      (∀ o ∈ ownersOf library .field ++ ownersOf library .section, o.rule.isSome = true →
        ∃! fate, o.Meets library fate) ∧
      (∀ kind, Lists (fun o r => o.Meets library (.exported r)) (ownersOf library kind)
        (e.rules kind)) ∧
      Lists (fun o entry => o = entry.1 ∧ o.Meets library (.unresolved entry.2))
        (ownersOf library .field ++ ownersOf library .section) unresolved :=
  ⟨textIds_library, stored_rules_sorted_out textIds_library⟩

example :
    (do
      let e ← exportRules library
      let unresolved ← unresolvedRules library
      return ((e.fields ++ e.sections).map fun r => (r.targetName, r.condition.fact),
        unresolved.map fun entry => (entry.1.name, entry.2)) :
      Attempt (List (Value × Value) × List (Value × Value))) =
      .ok ([(.text "title", .text "title"), (.text "Notes", .text "shelf")],
        [(.text "shelf", .text "3")]) := by
  cbv

end ServiceBlueprint.Form
