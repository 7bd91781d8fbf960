import ServiceBlueprint.Form.Visibility
import ServiceBlueprint.Proofs.Number.Exact
import ServiceBlueprint.Proofs.Value.Text

/-!
# What the operators of stored rules mean

`RuleOperator.Means` says of a value and an expected value, without exported operators, when a
stored operator holds. The exported operator, with the empty text in place of the expected value
where emptiness is tested, decides it.
-/

namespace ServiceBlueprint.Form

/-- Null, or a text of blanks only. -/
def Blank (v : Value) : Prop :=
  v = .null ∨ ∃ s, v = .text s ∧ ∀ c ∈ s.toList, Text.isBlank c = true

theorem isBlank_iff {v : Value} : isBlank v = true ↔ Blank v := by
  cases v with
  | null => simp [isBlank, Blank]
  | text s => simp [isBlank, Blank, Text.isBlankText]
  | _ => simp [isBlank, Blank]

/-- A blank value counts as the empty text. -/
def EqualTo (v value : Value) : Prop :=
  (v == value) = true ∨ value = .text "" ∧ Blank v

/-- A list has the value as a member, or a text has it as a part in whatever letter case. -/
def Contains (v value : Value) : Prop :=
  (∃ xs, (v = .list xs ∨ v = .tuple xs) ∧ ∃ x ∈ xs, (x == value) = true) ∨
  ∃ s t, v = .text s ∧ value = .text t ∧ (Text.lower t).toList <:+: (Text.lower s).toList

/-- A number that is not a truth value. -/
def IsNumber (v : Value) : Prop :=
  (∃ n, v = .int n) ∨ ∃ x, v = .float x

/-- Both are numbers, and what they stand for is related. -/
def Ordered (v value : Value) (related : Exact → Exact → Prop) : Prop :=
  ∃ a b, v.toExact? = some a ∧ value.toExact? = some b ∧ related a b

def RuleOperator.Means (op : RuleOperator) (v value : Value) : Prop :=
  match op with
  | .equals => EqualTo v value
  | .notEquals => ¬ EqualTo v value
  | .contains => Contains v value
  | .greaterThan => Ordered v value (· > ·)
  | .lessThan => Ordered v value (· < ·)
  | .greaterThanOrEquals => Ordered v value (· ≥ ·)
  | .lessThanOrEquals => Ordered v value (· ≤ ·)
  | .isEmpty => Blank v
  | .isNotEmpty => ¬ Blank v

theorem agrees_iff {v value : Value} : agrees v value = true ↔ EqualTo v value := by
  unfold agrees EqualTo
  rw [Bool.or_eq_true, Bool.and_eq_true, isBlank_iff, Value.beq_iff_eq_of_isText_right rfl, or_comm]

theorem agrees_empty_iff {v : Value} : agrees v (.text "") = true ↔ Blank v := by
  rw [agrees_iff]
  constructor
  · rintro (h | ⟨-, h⟩)
    · rw [Value.beq_iff_eq_of_isText_right rfl] at h
      exact Or.inr ⟨"", h, by simp⟩
    · exact h
  · exact fun h => Or.inr ⟨rfl, h⟩

theorem contains_iff_exists_beq {xs : List Value} {value : Value} :
    xs.contains value = true ↔ ∃ x ∈ xs, (x == value) = true := by
  rw [List.contains_iff_exists_mem_beq]
  simp only [BEq.comm (a := value)]

theorem containsValue_iff {v value : Value} :
    containsValue v value = true ↔ Contains v value := by
  unfold containsValue Contains
  cases v with
  | list xs => simp [items?, contains_iff_exists_beq]
  | tuple xs => simp [items?, contains_iff_exists_beq]
  | text s =>
    cases value with
    | text t => simp [items?, Value.occursIn_iff]
    | _ => simp [items?]
  | _ => simp [items?]

theorem number?_isSome_iff {v : Value} : v.number?.isSome = true ↔ IsNumber v := by
  unfold IsNumber
  cases v <;> simp [Value.number?]

theorem number?_eq_none_iff {v : Value} : v.number? = none ↔ ¬ IsNumber v := by
  rw [← number?_isSome_iff, Option.not_isSome_iff_eq_none]

theorem compareNumbers?_eq (v value : Value) :
    compareNumbers? v value = (do return compare (← v.toExact?) (← value.toExact?)) := by
  unfold compareNumbers? Value.toExact?
  cases v.number? with
  | none => rfl
  | some q =>
    cases value.number? with
    | none =>
      change none = q.toExact?.bind fun _ => none
      cases q.toExact? <;> rfl
    | some r => exact Value.Quantity.compare?_eq q r

theorem any_compareNumbers?_iff {v value : Value} {p : Ordering → Bool}
    {related : Exact → Exact → Prop} (h : ∀ a b, p (compare a b) = true ↔ related a b) :
    (compareNumbers? v value).any p = true ↔ Ordered v value related := by
  unfold Ordered
  rw [compareNumbers?_eq]
  cases v.toExact? with
  | none => simp
  | some a =>
    cases value.toExact? with
    | none => simp
    | some b => simp [h]

theorem compares_exported_iff (op : RuleOperator) (v value : Value) :
    op.exported.compares v (if op.testsEmptiness then .text "" else value) = true ↔
      op.Means v value := by
  cases op with
  | equals => exact agrees_iff
  | notEquals =>
    change (!agrees v value) = true ↔ ¬ EqualTo v value
    rw [Bool.not_eq_true', ← Bool.not_eq_true, agrees_iff]
  | contains => exact containsValue_iff
  | greaterThan =>
    exact any_compareNumbers?_iff fun a b => Ordering.isGT_iff_eq_gt.trans compare_gt_iff_gt
  | lessThan =>
    exact any_compareNumbers?_iff fun a b => Ordering.isLT_iff_eq_lt.trans compare_lt_iff_lt
  | greaterThanOrEquals =>
    exact any_compareNumbers?_iff fun a b => Ordering.isGE_iff_ne_lt.trans compare_ge_iff_ge
  | lessThanOrEquals =>
    exact any_compareNumbers?_iff fun a b => Ordering.isLE_iff_ne_gt.trans compare_le_iff_le
  | isEmpty => exact agrees_empty_iff
  | isNotEmpty =>
    change (!agrees v (.text "")) = true ↔ ¬ Blank v
    rw [Bool.not_eq_true', ← Bool.not_eq_true, agrees_empty_iff]

end ServiceBlueprint.Form
