import ServiceBlueprint.Gap.Basic
import ServiceBlueprint.Text.Octets
import ServiceBlueprint.Value.Access

/-!
# The shape of a rules document

A document of rules is a map of groups of rules as they are written. All that is wrong with it is
reported, in the order of the parts, each with the place where it was found. Keys that mean nothing
are passed over.
-/

namespace ServiceBlueprint.Gap

/-- A reading of a part of a document: its result, unless something is wrong with it. -/
structure Checked (α : Type) where
  errors : List ShapeError
  result : Option α

namespace Checked

variable {α β : Type}

def ok (a : α) : Checked α := ⟨[], some a⟩

def wrong (problem : ShapeProblem) : Checked α := ⟨[⟨problem, []⟩], none⟩

instance : Applicative Checked where
  pure := ok
  seq f x :=
    let y := x ()
    ⟨f.errors ++ y.errors, f.result.bind fun g => y.result.map g⟩

/-- Puts a step in front of the places of all errors. -/
def within (step : PathStep) (c : Checked α) : Checked α :=
  ⟨c.errors.map fun e => ⟨e.problem, step :: e.path⟩, c.result⟩

/-- One reading after another. -/
def all : List (Checked α) → Checked (List α)
  | [] => ok []
  | c :: cs => List.cons <$> c <*> all cs

end Checked

/-! ### Kinds of parts -/

/-- Octets that are the UTF-8 form of a text count as the text. -/
def checkText : Value → Checked String
  | .text s => .ok s
  | .bytes octets =>
    match Text.ofOctets? octets with
    | some s => .ok s
    | none => .wrong .notUnicode
  | _ => .wrong .notText

def checkTextOrNull : Value → Checked (Option String)
  | .null => .ok none
  | v => some <$> checkText v

def checkItems {α : Type} (check : Value → Checked α) (items : List Value) : Checked (List α) :=
  .all (items.mapIdx fun i v => (check v).within (.index i))

def checkList {α : Type} (check : Value → Checked α) : Value → Checked (List α)
  | .list items => checkItems check items
  | .tuple items => checkItems check items
  | .set items => checkItems check items
  | _ => .wrong .notList

def checkMember {α : Type} (ofName? : String → Option α) (v : Value) : Checked α :=
  match (checkText v).result.bind ofName? with
  | some a => .ok a
  | none => .wrong .notMember

/-- A key as a step: a text as it is, a number of at most 64 bits as an index, and any other one as
its literal. -/
def keyStep (key : Value) : PathStep :=
  match key with
  | .text s => .key s
  | .bool b => .index (if b then 1 else 0)
  | .int n => if -Int.pow 2 63 ≤ n ∧ n < Int.pow 2 63 then .index n else .key (toString n)
  | v => .key v.literal

def checkEntry (e : Value × Value) : Checked (Value × Value) :=
  ((fun s => (Value.text s, e.2)) <$> checkText e.1).within (.key "[key]") |>.within (keyStep e.1)

/-- A map with text keys, or null. -/
def checkDetails : Value → Checked (Option (List (Value × Value)))
  | .null => .ok none
  | .map es => (fun es => some (Table.ofList es)) <$> .all (es.map checkEntry)
  | _ => .wrong .notMap

/-! ### Parts at keys -/

abbrev Entries := List (Value × Value)

def needed {α : Type} (es : Entries) (key : String) (check : Value → Checked α) : Checked α :=
  ((Table.find? es (.text key)).elim (.wrong .missing) check).within (.key key)

def optional {α : Type} (es : Entries) (key : String) (usual : α) (check : Value → Checked α) :
    Checked α :=
  ((Table.find? es (.text key)).elim (.ok usual) check).within (.key key)

def checkRecord {α : Type} (read : Entries → Checked α) : Value → Checked α
  | .map es => read es
  | _ => .wrong .notModel

/-! ### Rules as they are written -/

structure WrittenFix where
  action : Action
  fieldName : Option String
  fieldType : Option String
  validation : Option Entries

structure WrittenRule where
  name : String
  description : String
  severity : Severity
  patterns : List String
  fieldTypes : List String
  requiredValidation : List String
  fix : Option WrittenFix
  message : Option String
  suggestion : Option String

structure RuleDocument where
  missingFields : List WrittenRule
  validationGaps : List WrittenRule

def checkFix : Value → Checked (Option WrittenFix)
  | .null => .ok none
  | v => v |> checkRecord fun es =>
    (fun a n t d => some (WrittenFix.mk a n t d)) <$>
      optional es "action" .addField (checkMember Action.ofName?) <*>
      optional es "fieldName" none checkTextOrNull <*>
      optional es "fieldType" none checkTextOrNull <*>
      optional es "validation" none checkDetails

def checkRule : Value → Checked WrittenRule :=
  checkRecord fun es =>
    WrittenRule.mk <$>
      needed es "name" checkText <*>
      needed es "description" checkText <*>
      needed es "severity" (checkMember Severity.ofName?) <*>
      optional es "patterns" [] (checkList checkText) <*>
      optional es "fieldTypes" [] (checkList checkText) <*>
      optional es "requiredValidation" [] (checkList checkText) <*>
      optional es "fix" none checkFix <*>
      optional es "message" none checkTextOrNull <*>
      optional es "suggestion" none checkTextOrNull

def checkGroups : Value → Checked RuleDocument :=
  checkRecord fun es =>
    RuleDocument.mk <$>
      optional es "missing_fields" [] (checkList checkRule) <*>
      optional es "validation_gaps" [] (checkList checkRule)

def RuleDocument.check : Value → Checked RuleDocument :=
  checkRecord fun es => needed es "rules" checkGroups

end ServiceBlueprint.Gap
