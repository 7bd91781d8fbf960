import ServiceBlueprint.Gap.Analysis
import ServiceBlueprint.Gap.RuleDocument
import ServiceBlueprint.Markup.Document

/-!
# Rules from a document

A document holds presence rules and coverage rules, in two groups. A presence rule needs patterns
or types to match fields by; a coverage rule needs types and the keys that it asks for. The first
rule that cannot be used, presence rules first, makes the document useless.
-/

namespace ServiceBlueprint.Gap

structure RuleSet where
  presence : List PresenceRule
  coverage : List CoverageRule

namespace WrittenRule

def types (r : WrittenRule) : Except RulesError (List FieldType) := do
  let types ← r.fieldTypes.mapM fun raw =>
    match FieldType.parse? raw with
    | some t => .ok t
    | none => .error (.unknownFieldType r.name raw)
  return types.foldl addUnlessThere []

end WrittenRule

def textOrNull (s : Option String) : Value :=
  match s with
  | some s => .text s
  | none => .null

def WrittenFix.toFix (f : WrittenFix) : Fix where
  action := f.action
  params := [(.text "fieldName", textOrNull f.fieldName), (.text "fieldType", textOrNull f.fieldType),
    (.text "validation", .map (f.validation.getD []))]
  description := "Add \"" ++ orText (f.fieldName.getD "") "field" ++ "\" field"

namespace WrittenRule

def toPresence (r : WrittenRule) : Except RulesError PresenceRule := do
  if r.patterns.isEmpty && r.fieldTypes.isEmpty then throw (.nothingToMatch r.name)
  return {
    name := r.name
    description := r.description
    severity := r.severity
    patterns := r.patterns
    types := ← r.types
    fix := r.fix.map (·.toFix)
    message := orText (r.message.getD "") r.description
    suggestion := r.suggestion.getD "" }

/-- The template of a rule that has no message of its own. -/
def usualTemplate (r : WrittenRule) : String :=
  "Field \"\x7bname\x7d\" - " ++ r.description

/-- A validation without entries is none. -/
def fixValidation (r : WrittenRule) : Option Entries :=
  (r.fix.bind (·.validation)).filter (!·.isEmpty)

def toCoverage (r : WrittenRule) : Except RulesError CoverageRule := do
  if r.fieldTypes.isEmpty || r.requiredValidation.isEmpty then throw (.nothingToRequire r.name)
  return {
    name := r.name
    description := r.description
    severity := r.severity
    types := ← r.types
    anyOf := r.requiredValidation
    fixValidation := r.fixValidation
    messageTemplate := orText (r.message.getD "") r.usualTemplate
    suggestion := r.suggestion.getD "" }

end WrittenRule

def RuleDocument.toRules (d : RuleDocument) : Except RulesError RuleSet := do
  return ⟨← d.missingFields.mapM (·.toPresence), ← d.validationGaps.mapM (·.toCoverage)⟩

namespace RuleSet

def asFault {α : Type} : Except RulesError α → Attempt α
  | .ok a => .ok a
  | .error e => .error (.rules e)

/-- The rules of a document that is already read. -/
def ofDocument (document : Value) : Except RulesError RuleSet :=
  let checked := RuleDocument.check document
  match checked.result with
  | some d => d.toRules
  | none => .error (.invalidShape checked.errors)

/-- The rules of a document in markup. -/
def ofMarkup (content : String) : Attempt RuleSet :=
  match Markup.read content with
  | .ok document => asFault (ofDocument document)
  | .error .malformed => .error (.rules .invalidMarkup)
  | .error (.faulty f) => .error f

/-- Only a text can be a document. -/
def ofValue : Value → Attempt RuleSet
  | .text content => ofMarkup content
  | _ => .error .missingAttribute

/-- What is reported when rules have been read. -/
def loadedEvents (s : RuleSet) : List Log.Event :=
  [.plain "service_designer.domain.gaps.rules" .info
    ("Loaded " ++ toString s.presence.length ++ " field rules and " ++
      toString s.coverage.length ++ " validation rules")]

end RuleSet

end ServiceBlueprint.Gap
