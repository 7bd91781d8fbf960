import ServiceBlueprint.Form.Compiled
import ServiceBlueprint.Form.Violation

/-!
# Validating submissions

Fields that the rules of a form hide, by themselves or with their section, are dropped from the
values and from what is required before the schema is applied. Errors are ordered by field and
then by message.
-/

namespace ServiceBlueprint.Form

structure SubmissionError where
  field : Value
  violation : Violation

def SubmissionError.message (e : SubmissionError) : String :=
  e.violation.message

structure Verdict where
  errors : List SubmissionError
  /-- The names of the fields hidden from the submission, in ascending order. -/
  hiddenFields : List Value

namespace Verdict

def valid (v : Verdict) : Bool :=
  v.errors.isEmpty

def errorsByField (v : Verdict) : Table Value (List String) :=
  Table.group (v.errors.map fun e => (e.field, e.message))

end Verdict

/-- The names of fields placed in one of the given sections. -/
def namesPlacedIn (c : CompiledForm) (sections : List Value) : List Value :=
  (c.placements.filter fun e => sections.contains e.2).map (·.1)

def hiddenFields (c : CompiledForm) (data : Value) : Attempt (List Value) := do
  let own ← c.rules.hiddenNames .field data
  let sections ← c.rules.hiddenIds .section data
  Value.sorted (distinct (own ++ namesPlacedIn c sections))

def without {α : Type} (names : List Value) (t : Table Value α) : Table Value α :=
  t.filter fun e => !names.contains e.1

/-- The errors of the values that are there, property by property. -/
def valueErrors (properties : Table Value Property) (data : Facts) :
    Attempt (List SubmissionError) := do
  let found ← properties.mapM fun (name, property) =>
    match data.find? name with
    | none => .ok []
    | some v => do
      let field := Value.text name.display
      return (← violations property v).map (⟨field, ·⟩)
  return found.flatten

def missingNames (required : List Value) (data : Facts) : List Value :=
  required.filter fun n => !data.hasKey n

/-- A missing name is reported under the first missing name whose text occurs in its report. -/
def reportedName? (missing : List Value) (name : Value) : Option Value :=
  let report := name.literal ++ " is a required property"
  missing.find? fun m => Value.occursIn m.literal.toList report.toList

def requiredErrors (required : List Value) (data : Facts) : List SubmissionError :=
  let missing := missingNames required data
  missing.filterMap fun n => (reportedName? missing n).map (⟨·, .missing⟩)

/-- The order of two names, which exists among texts and among quantities; each name is beside
itself. -/
def orderNames? (a b : Value) : Option Ordering :=
  if a == b then some .eq
  else
    match a, b with
    | .text s, .text t => some (compare s t)
    | a, b => do (← a.quantity?).compare? (← b.quantity?)

def SubmissionError.order? (a b : SubmissionError) : Option Ordering := do
  return (← orderNames? a.field b.field).then (compare a.message b.message)

def sortErrors (errors : List SubmissionError) : Attempt (List SubmissionError) :=
  if errors.all fun a => errors.all fun b => (a.order? b).isSome then
    .ok (errors.mergeSort fun a b => (a.order? b).any (·.isLE))
  else .error .wrongType

def judge (c : CompiledForm) (data : Value) : Attempt Verdict := do
  let hidden ← hiddenFields c data
  let visible := without hidden (← factsOf data)
  let values ← valueErrors (without hidden c.schema.properties) visible
  let required := requiredErrors (c.schema.required.filter fun n => !hidden.contains n) visible
  return ⟨← sortErrors (values ++ required), hidden⟩

def submissionEvents (c : CompiledForm) (data : Value) : List Log.Event :=
  match judge c data with
  | .ok v =>
    if v.valid then []
    else
      [.plain "service_designer.domain.forms.submission" .debug
        ("Submission for form " ++ c.id.display ++ " has " ++ toString v.errors.length ++
          " errors")]
  | .error _ => []

end ServiceBlueprint.Form
