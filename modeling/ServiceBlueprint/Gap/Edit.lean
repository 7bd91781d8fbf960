import ServiceBlueprint.Gap.Analysis
import ServiceBlueprint.Value.Assign

/-!
# Editing the fixes of a report

The parameters of a fix may be changed at a path before the fix is applied. The entries of a
validation that a coverage rule asks for are the rule's own: a change inside of one reaches the
rule and all gaps that show the entry, until an edit puts another entry in its place. Otherwise
the other gaps stay as they are.
-/

namespace ServiceBlueprint.Gap

def Fix.edit (f : Fix) (path : List Value) (new : Value) : Attempt Fix := do
  if path.isEmpty then throw .missingIndex
  match ← Value.assign new path (.map f.params) with
  | .map params => return { f with params := params }
  | _ => throw .wrongType

/-- Only a gap with a fix can be edited. -/
def editFix (g : Gap) (path : List Value) (new : Value) : Attempt Gap :=
  match g.fix with
  | none => .error .missingAttribute
  | some f => do return { g with fix := some (← f.edit path new) }

def Report.find? (r : Report) (id : String) : Option Gap :=
  r.gaps.find? (·.id = id)

def Report.editFix (r : Report) (id : String) (path : List Value) (new : Value) :
    Attempt Report := do
  if (r.find? id).isSome then
    let gaps ← r.gaps.mapM fun g => if g.id = id then g.editFix path new else .ok g
    return { r with gaps := gaps }
  else throw .missingAttribute

/-! ### Entries that belong to a rule -/

def validationKey : Value := .text "validation"

def Fix.entryAt? (f : Fix) (key : Value) : Option Value :=
  match Table.find? f.params validationKey with
  | some (.map es) => Table.find? es key
  | _ => none

def Fix.setEntry (f : Fix) (key value : Value) : Fix :=
  { f with
    params := Table.modify f.params validationKey fun v =>
      match v with
      | .map es => .map (Table.modify es key fun _ => value)
      | v => v }

/-- The entries of a gap's validation that are no longer those of its rule: one of them, or all. -/
structure Detached where
  gap : String
  key : Option Value

/-- A report under revision, with the options it was made with. -/
structure Revision where
  options : Options
  report : Report
  detached : List Detached

namespace Revision

/-- Whether a gap shows an entry of the validation of its rule. -/
def shows (v : Revision) (g : Gap) (key : Value) : Bool :=
  g.kind = .missingValidation &&
    !v.detached.any fun d => d.gap = g.id && d.key.all (· == key)

/-- Puts a value into the entry wherever it is shown, and into the rule. -/
def spread (v : Revision) (rule : String) (key value : Value) : Revision :=
  let gap (g : Gap) : Gap :=
    if g.rule = rule && v.shows g key then { g with fix := g.fix.map (·.setEntry key value) } else g
  let coverage (r : CoverageRule) : CoverageRule :=
    if r.name = rule then
      { r with fixValidation := r.fixValidation.map fun es => Table.modify es key fun _ => value }
    else r
  { v with
    report := { v.report with gaps := v.report.gaps.map gap }
    options := { v.options with
      customCoverageRules := v.options.customCoverageRules.map coverage } }

/-- Takes the entries that an edit replaces from their rule. -/
def detach (v : Revision) (id : String) (key : Option Value) : Revision :=
  { v with detached := ⟨id, key⟩ :: v.detached }

def edit (v : Revision) (id : String) (path : List Value) (new : Value) : Attempt Revision := do
  let edited := { v with report := ← v.report.editFix id path new }
  match path, edited.report.find? id with
  | [step], _ => return if step == validationKey then edited.detach id none else edited
  | [step, key], _ => return if step == validationKey then edited.detach id (some key) else edited
  | step :: key :: _, some g =>
    if step == validationKey && v.shows g key then
      match g.fix.bind (·.entryAt? key) with
      | some value => return edited.spread g.rule key value
      | none => return edited
    else return edited
  | _, _ => return edited

end Revision

end ServiceBlueprint.Gap
