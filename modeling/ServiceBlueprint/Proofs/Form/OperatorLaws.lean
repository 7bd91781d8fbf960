import ServiceBlueprint.Proofs.Attempt
import ServiceBlueprint.Proofs.Form.Conditions
import ServiceBlueprint.Proofs.Value.Access

/-!
# Laws of the operators

Conditions written as maps never fail where the name they ask for is a text. Equality, containment
and membership have complements, the orderings of whole numbers are those of the integers, and of
anything that is no number no ordering holds. So to deny all of some conditions is to hold any of
their complements.
-/

namespace ServiceBlueprint.Form

/-! ### Written conditions -/

/-- A map with the parts of the condition, in whatever order and with whatever else. An expected
value that is null may be left out. -/
structure Condition.WrittenAs (c : Condition) (raw : Value) : Prop where
  fact : raw.get? "fact" = some c.fact
  operator : raw.get? "operator" = some (.text c.operator.name)
  expected : (raw.get? "value").getD .null = c.expected

theorem Condition.writtenAs_toValue (c : Condition) : c.WrittenAs c.toValue :=
  ⟨rfl, rfl, rfl⟩

theorem Operator.ofName?_eq_some_iff (s : String) (op : Operator) :
    Operator.ofName? s = some op ↔ s = op.name :=
  find?_name_eq_some_iff (fun op => by cases op <;> rfl) s op

theorem Condition.WrittenAs.ofValue {c : Condition} {raw : Value} (h : c.WrittenAs raw)
    (hfact : c.fact.isText = true) :
    WrittenCondition.ofValue raw = .ok ⟨c.fact, .text c.operator.name, c.expected⟩ := by
  unfold WrittenCondition.ofValue
  rw [Value.index_eq_ok_iff.mpr h.fact, Value.index_eq_ok_iff.mpr h.operator, h.expected]
  change (do
    let fact ← c.fact.asKey
    let operator ← (Value.text c.operator.name).asKey
    return ⟨fact, operator, c.expected⟩ : Attempt WrittenCondition) = _
  rw [Value.asKey_of_isText hfact]
  rfl

/-- A written condition holds exactly if the condition does. -/
theorem Condition.WrittenAs.evaluate {c : Condition} {raw : Value} (h : c.WrittenAs raw)
    (hfact : c.fact.isText = true) (facts : Facts) :
    evaluateCondition raw (.map facts) = .ok (c.holds facts) := by
  have hop : WrittenCondition.operator? ⟨c.fact, .text c.operator.name, c.expected⟩ =
      some c.operator :=
    (Operator.ofName?_eq_some_iff _ _).mpr rfl
  unfold evaluateCondition
  rw [h.ofValue hfact]
  simp only [bind, Except.bind, hop]
  rfl

/-! ### Orderings -/

theorem compareNumbers?_eq_none {v value : Value} (h : ¬ IsNumber v ∨ ¬ IsNumber value) :
    compareNumbers? v value = none := by
  unfold compareNumbers?
  rw [← number?_eq_none_iff, ← number?_eq_none_iff] at h
  rcases h with h | h
  · rw [h]
    rfl
  · rw [h]
    cases v.number? <;> rfl

theorem compareNumbers?_int (m n : Int) :
    compareNumbers? (.int m) (.int n) = some (compare m n) :=
  rfl

theorem agrees_int (m n : Int) : agrees (.int m) (.int n) = decide (m = n) := by
  rw [Bool.eq_iff_iff, agrees_iff, decide_eq_true_iff]
  unfold EqualTo
  rw [Value.beq_iff_normal]
  simp [Value.normal, Value.normalBy]

namespace Operator

/-- Whether an operator compares numbers by size. -/
def isOrdering (op : Operator) : Bool :=
  op = .greaterThan || op = .greaterThanInclusive || op = .lessThan || op = .lessThanInclusive

/-- What the operator says when it is denied. -/
def complement? : Operator → Option Operator
  | .equal => some .notEqual
  | .notEqual => some .equal
  | .contains => some .doesNotContain
  | .doesNotContain => some .contains
  | _ => none

theorem compares_complement {op op' : Operator} (h : op.complement? = some op')
    (actual expected : Value) : op'.compares actual expected = !op.compares actual expected := by
  cases op <;> cases h
  case equal => rfl
  case notEqual => exact (Bool.not_not _).symm
  case contains => rfl
  case doesNotContain => exact (Bool.not_not _).symm

theorem compares_eq_false_of_isOrdering {op : Operator} (hop : op.isOrdering = true)
    {actual expected : Value} (h : ¬ IsNumber actual ∨ ¬ IsNumber expected) :
    op.compares actual expected = false := by
  have hnone := compareNumbers?_eq_none h
  cases op <;> cases hop <;> simp only [compares, hnone, Option.any_none]

end Operator

theorem compares_int (m n : Int) :
    Operator.lessThan.compares (.int m) (.int n) = decide (m < n) ∧
      Operator.equal.compares (.int m) (.int n) = decide (m = n) ∧
      Operator.greaterThan.compares (.int m) (.int n) = decide (n < m) := by
  simp only [Operator.compares, compareNumbers?_int, agrees_int, Option.any_some, true_and]
  constructor
  · rw [Bool.eq_iff_iff, decide_eq_true_iff, Ordering.isLT_iff_eq_lt, compare_lt_iff_lt]
  · rw [Bool.eq_iff_iff, decide_eq_true_iff, Ordering.isGT_iff_eq_gt, compare_gt_iff_gt]

/-- What is said about the outcomes of all operators on two values. -/
structure Lawful (actual expected : Value) (holds : Operator → Bool) : Prop where
  equality : holds .notEqual = !holds .equal
  containment : holds .doesNotContain = !holds .contains
  membership : ∀ xs, expected = .list xs → holds .notIn = !holds .isIn
  integers : ∀ m n, actual = .int m → expected = .int n →
    holds .lessThan = decide (m < n) ∧ holds .equal = decide (m = n) ∧
      holds .greaterThan = decide (n < m)
  trichotomy : ∀ m n, actual = .int m → expected = .int n →
    [holds .lessThan, holds .equal, holds .greaterThan].count true = 1
  inclusive : ∀ m n, actual = .int m → expected = .int n →
    holds .greaterThanInclusive = !holds .lessThan ∧
      holds .lessThanInclusive = !holds .greaterThan
  unordered : ¬ IsNumber actual ∨ ¬ IsNumber expected →
    ∀ op : Operator, op.isOrdering = true → holds op = false

theorem lawful_compares (actual expected : Value) :
    Lawful actual expected fun op => op.compares actual expected := by
  constructor
  case equality => rfl
  case containment => rfl
  case membership =>
    rintro xs rfl
    rfl
  case integers =>
    rintro m n rfl rfl
    exact compares_int m n
  case trichotomy =>
    rintro m n rfl rfl
    obtain ⟨hless, hequal, hgreater⟩ := compares_int m n
    rw [hless, hequal, hgreater]
    rcases lt_trichotomy m n with h | h | h
    · rw [decide_eq_true h, decide_eq_false h.ne, decide_eq_false h.asymm]
      rfl
    · rw [decide_eq_false h.not_lt, decide_eq_true h, decide_eq_false h.not_gt]
      rfl
    · rw [decide_eq_false h.asymm, decide_eq_false h.ne', decide_eq_true h]
      rfl
  case inclusive =>
    rintro m n rfl rfl
    simp only [Operator.compares, compareNumbers?_int, Option.any_some]
    cases compare m n <;> exact ⟨rfl, rfl⟩
  case unordered =>
    exact fun h op hop => Operator.compares_eq_false_of_isOrdering hop h

/-! ### Rules -/

/-- The rule holds if all the conditions do. -/
def JoinsAll (rule : Value) (conditions : List Value) : Prop :=
  ∃ joined, rule.get? "conditions" = some joined ∧ joined.get? "all" = some (.list conditions)

/-- The rule holds if any of the conditions does. -/
def JoinsAny (rule : Value) (conditions : List Value) : Prop :=
  ∃ joined, rule.get? "conditions" = some joined ∧ joined.isMap = true ∧
    joined.get? "all" = none ∧ joined.get? "any" = some (.list conditions)

/-- Two conditions on the value at one name that ask for complements. -/
def Opposed (raw raw' : Value) : Prop :=
  ∃ (name : String) (op op' : Operator) (expected : Value),
    Condition.WrittenAs ⟨.text name, op, expected⟩ raw ∧
      Condition.WrittenAs ⟨.text name, op', expected⟩ raw' ∧ op.complement? = some op'

theorem JoinsAll.ruleConditions {rule : Value} {conditions : List Value}
    (h : JoinsAll rule conditions) : ruleConditions rule = .ok (.all, conditions) := by
  obtain ⟨joined, hjoined, hall⟩ := h
  have hhas := Value.has_of_isMap (Value.isMap_of_get? hall) "all"
  rw [hall] at hhas
  apply Attempt.bind_eq_ok.mpr
  refine ⟨_, Value.lookup_of_get? hjoined, Attempt.bind_eq_ok.mpr ⟨_, hhas, ?_⟩⟩
  exact Attempt.bind_eq_ok.mpr ⟨_, Value.index_eq_ok_iff.mpr hall, rfl⟩

theorem JoinsAny.ruleConditions {rule : Value} {conditions : List Value}
    (h : JoinsAny rule conditions) : ruleConditions rule = .ok (.any, conditions) := by
  obtain ⟨joined, hjoined, hmap, hall, hany⟩ := h
  have hhasAll := Value.has_of_isMap hmap "all"
  have hhasAny := Value.has_of_isMap hmap "any"
  rw [hall] at hhasAll
  rw [hany] at hhasAny
  apply Attempt.bind_eq_ok.mpr
  refine ⟨_, Value.lookup_of_get? hjoined, Attempt.bind_eq_ok.mpr ⟨_, hhasAll, ?_⟩⟩
  refine Attempt.bind_eq_ok.mpr ⟨_, hhasAny, ?_⟩
  exact Attempt.bind_eq_ok.mpr ⟨_, Value.index_eq_ok_iff.mpr hany, rfl⟩

theorem Opposed.evaluate {raw raw' : Value} (h : Opposed raw raw') (facts : Facts) :
    ∃ b, evaluateCondition raw (.map facts) = .ok b ∧
      evaluateCondition raw' (.map facts) = .ok (!b) := by
  obtain ⟨name, op, op', expected, hraw, hraw', hop⟩ := h
  refine ⟨_, hraw.evaluate rfl facts, ?_⟩
  rw [hraw'.evaluate rfl facts]
  exact congrArg Except.ok (Operator.compares_complement hop _ _)

/-- Tests that always give opposite results are denied together by stopping at the same element. -/
theorem anyHolds_eq_not_allHold {p : Value → Attempt Bool} {xs ys : List Value}
    (h : List.Forall₂ (fun x y => ∃ b, p x = .ok b ∧ p y = .ok (!b)) xs ys) :
    ∃ b, allHold p xs = .ok b ∧ anyHolds p ys = .ok (!b) := by
  induction h with
  | nil => exact ⟨true, rfl, rfl⟩
  | cons hfirst _ ih =>
    obtain ⟨b, hx, hy⟩ := hfirst
    rw [allHold, anyHolds, hx, hy]
    cases b with
    | true => exact ih
    | false => exact ⟨false, rfl, rfl⟩

/-! ### All laws together -/

/-- Written conditions on the values of a submission have outcomes that keep the laws of the
operators. A rule that asks for all of some conditions holds exactly if one that asks for any of the
opposed conditions does not. -/
theorem operators_lawful (facts : Facts) :
    (∀ (name : String) (expected : Value) (raw : Operator → Value),
      (∀ op, Condition.WrittenAs ⟨.text name, op, expected⟩ (raw op)) →
      ∃ holds, (∀ op, evaluateCondition (raw op) (.map facts) = .ok (holds op)) ∧
        Lawful (facts.valueAt (.text name)) expected holds) ∧
      ∀ raws raws' rule rule', List.Forall₂ Opposed raws raws' → JoinsAll rule raws →
        JoinsAny rule' raws' →
        ∃ b, evaluateRule rule (.map facts) = .ok b ∧ evaluateRule rule' (.map facts) = .ok (!b) := by
  constructor
  · intro name expected raw hraw
    exact ⟨_, fun op => (hraw op).evaluate rfl facts, lawful_compares _ _⟩
  · intro raws raws' rule rule' hopposed hall hany
    unfold evaluateRule
    rw [hall.ruleConditions, hany.ruleConditions]
    exact anyHolds_eq_not_allHold (hopposed.imp fun raw raw' h => h.evaluate facts)

/-- A blank name counts as none, and a size is asked for that is not the one given. -/
theorem operators_lawful_blankName :
    let facts : Facts := [(.text "name", .text " "), (.text "size", .int 3)]
    let raw (op : Operator) : Value := Condition.toValue ⟨.text "size", op, .int 5⟩
    let raws : List Value := [Condition.toValue ⟨.text "name", .equal, .text ""⟩,
      Condition.toValue ⟨.text "size", .doesNotContain, .int 3⟩]
    let raws' : List Value := [Condition.toValue ⟨.text "name", .notEqual, .text ""⟩,
      Condition.toValue ⟨.text "size", .contains, .int 3⟩]
    let rule : Value := entries [("conditions", entries [("all", .list raws)])]
    let rule' : Value := entries [("conditions", entries [("any", .list raws')])]
    (∀ op, Condition.WrittenAs ⟨.text "size", op, .int 5⟩ (raw op)) ∧
      (∃ holds, (∀ op, evaluateCondition (raw op) (.map facts) = .ok (holds op)) ∧
        Lawful (facts.valueAt (.text "size")) (.int 5) holds) ∧
      List.Forall₂ Opposed raws raws' ∧ JoinsAll rule raws ∧ JoinsAny rule' raws' ∧
      ∃ b, evaluateRule rule (.map facts) = .ok b ∧ evaluateRule rule' (.map facts) = .ok (!b) := by
  intro facts raw raws raws' rule rule'
  have hraw (op : Operator) : Condition.WrittenAs ⟨.text "size", op, .int 5⟩ (raw op) :=
    Condition.writtenAs_toValue _
  have hopposed : List.Forall₂ Opposed raws raws' :=
    .cons ⟨"name", .equal, .notEqual, .text "", Condition.writtenAs_toValue _,
      Condition.writtenAs_toValue _, rfl⟩
    (.cons ⟨"size", .doesNotContain, .contains, .int 3, Condition.writtenAs_toValue _,
      Condition.writtenAs_toValue _, rfl⟩ .nil)
  have hall : JoinsAll rule raws := ⟨_, rfl, rfl⟩
  have hany : JoinsAny rule' raws' := ⟨_, rfl, rfl, rfl, rfl⟩
  obtain ⟨hlaws, hrules⟩ := operators_lawful facts
  exact ⟨hraw, hlaws "size" (.int 5) raw hraw, hopposed, hall, hany,
    hrules raws raws' rule rule' hopposed hall hany⟩

end ServiceBlueprint.Form
