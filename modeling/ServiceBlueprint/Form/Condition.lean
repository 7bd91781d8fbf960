import ServiceBlueprint.Log.Event
import ServiceBlueprint.Text.Case
import ServiceBlueprint.Text.Blank
import ServiceBlueprint.Value.Access

/-!
# Conditions on the values of a form

A condition compares the value at one name with an expected value. A name without a value counts
as null, and where nothing is expected a null or blank value counts as nothing. Numbers are
ordered among themselves and nothing else is. An operator that is not known never holds.
-/

namespace ServiceBlueprint.Form

inductive Operator where
  | equal
  | notEqual
  | isIn
  | notIn
  | contains
  | doesNotContain
  | greaterThan
  | greaterThanInclusive
  | lessThan
  | lessThanInclusive
  deriving DecidableEq, Repr

namespace Operator

def all : List Operator :=
  [.equal, .notEqual, .isIn, .notIn, .contains, .doesNotContain, .greaterThan,
    .greaterThanInclusive, .lessThan, .lessThanInclusive]

def name : Operator → String
  | .equal => "equal"
  | .notEqual => "notEqual"
  | .isIn => "in"
  | .notIn => "notIn"
  | .contains => "contains"
  | .doesNotContain => "doesNotContain"
  | .greaterThan => "greaterThan"
  | .greaterThanInclusive => "greaterThanInclusive"
  | .lessThan => "lessThan"
  | .lessThanInclusive => "lessThanInclusive"

def ofName? (s : String) : Option Operator :=
  all.find? (·.name = s)

end Operator

abbrev Facts := Table Value Value

def Facts.valueAt (facts : Facts) (name : Value) : Value :=
  (facts.find? name).getD .null

def isBlank : Value → Bool
  | .null => true
  | .text s => Text.isBlankText s
  | _ => false

def agrees (actual expected : Value) : Bool :=
  (expected == .text "" && isBlank actual) || actual == expected

def items? : Value → Option (List Value)
  | .list xs => some xs
  | .tuple xs => some xs
  | _ => none

/-- A list contains its members, and a text any part of it in whatever letter case. -/
def containsValue (actual expected : Value) : Bool :=
  match items? actual, actual, expected with
  | some xs, _, _ => xs.contains expected
  | none, .text s, .text t => Value.occursIn (Text.lower t).toList (Text.lower s).toList
  | none, _, _ => false

def compareNumbers? (actual expected : Value) : Option Ordering := do
  (← actual.number?).compare? (← expected.number?)

def Operator.compares (op : Operator) (actual expected : Value) : Bool :=
  match op with
  | .equal => agrees actual expected
  | .notEqual => !agrees actual expected
  | .isIn => ((items? expected).map (·.contains actual)).getD false
  | .notIn => ((items? expected).map (!·.contains actual)).getD false
  | .contains => containsValue actual expected
  | .doesNotContain => !containsValue actual expected
  | .greaterThan => (compareNumbers? actual expected).any (·.isGT)
  | .greaterThanInclusive => (compareNumbers? actual expected).any (·.isGE)
  | .lessThan => (compareNumbers? actual expected).any (·.isLT)
  | .lessThanInclusive => (compareNumbers? actual expected).any (·.isLE)

structure Condition where
  fact : Value
  operator : Operator
  expected : Value

def Condition.holds (c : Condition) (facts : Facts) : Bool :=
  c.operator.compares (facts.valueAt c.fact) c.expected

/-- Only a map has facts. -/
def factsOf : Value → Attempt Facts
  | .map es => .ok es
  | _ => .error .missingAttribute

/-! ### Conditions and rules written as maps -/

/-- A condition as written; its operator may be unknown. -/
structure WrittenCondition where
  fact : Value
  operator : Value
  expected : Value

def WrittenCondition.ofValue (raw : Value) : Attempt WrittenCondition := do
  let fact ← (← raw.index "fact").asKey
  let operator ← (← raw.index "operator").asKey
  return ⟨fact, operator, (raw.get? "value").getD .null⟩

def WrittenCondition.operator? (c : WrittenCondition) : Option Operator :=
  c.operator.text?.bind Operator.ofName?

def evaluateCondition (raw values : Value) : Attempt Bool := do
  let facts ← factsOf values
  let c ← WrittenCondition.ofValue raw
  match c.operator? with
  | some op => return Condition.holds ⟨c.fact, op, c.expected⟩ facts
  | none => return false

/-- Whether `p` holds of all elements, decided from the left and no further than needed. -/
def allHold (p : Value → Attempt Bool) : List Value → Attempt Bool
  | [] => .ok true
  | x :: xs =>
    match p x with
    | .ok true => allHold p xs
    | other => other

def anyHolds (p : Value → Attempt Bool) : List Value → Attempt Bool
  | [] => .ok false
  | x :: xs =>
    match p x with
    | .ok false => anyHolds p xs
    | other => other

/-- How the conditions of a rule are joined. -/
inductive Junction where
  | all
  | any
  | none

def ruleConditions (rule : Value) : Attempt (Junction × List Value) := do
  let conditions := (← rule.lookup "conditions").getD (.map [])
  let joined ← conditions.has "all"
  if joined then return (.all, ← (← conditions.index "all").elements)
  let joined ← conditions.has "any"
  if joined then return (.any, ← (← conditions.index "any").elements)
  return (.none, [])

/-- A rule without conditions always holds. -/
def evaluateRule (rule values : Value) : Attempt Bool := do
  let (junction, conditions) ← ruleConditions rule
  match junction with
  | .all => allHold (evaluateCondition · values) conditions
  | .any => anyHolds (evaluateCondition · values) conditions
  | .none => return true

/-! ### Unknown operators are reported -/

def conditionEvents (raw values : Value) : List Log.Event :=
  match factsOf values, WrittenCondition.ofValue raw with
  | .ok _, .ok c =>
    if c.operator?.isSome then []
    else
      [.plain "service_designer.domain.forms.visibility" .warning
        ("Unknown rule operator: " ++ c.operator.display)]
  | _, _ => []

/-- The elements up to and with the first at which `p` does not give `going`. -/
def visited (p : Value → Attempt Bool) (going : Bool) : List Value → List Value
  | [] => []
  | x :: xs =>
    match p x with
    | .ok b => if b = going then x :: visited p going xs else [x]
    | .error _ => [x]

def ruleEvents (rule values : Value) : List Log.Event :=
  let evaluate (c : Value) := evaluateCondition c values
  let seen := match ruleConditions rule with
    | .ok (.all, cs) => visited evaluate true cs
    | .ok (.any, cs) => visited evaluate false cs
    | _ => []
  seen.flatMap (conditionEvents · values)

end ServiceBlueprint.Form
