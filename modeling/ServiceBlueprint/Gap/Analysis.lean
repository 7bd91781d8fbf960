import ServiceBlueprint.Gap.BuiltIn
import ServiceBlueprint.Gap.Report
import ServiceBlueprint.Gap.Topology
import ServiceBlueprint.Log.Event

/-!
# Finding the gaps of a service

Three families of rules are applied independently: presence rules to the service as a whole,
coverage rules to each of its fields, and topology rules to its flow. The gaps found are
numbered in that order.
-/

namespace ServiceBlueprint.Gap

structure Options where
  checkFields : Bool
  checkValidation : Bool
  checkWorkflow : Bool
  customRules : List PresenceRule
  customCoverageRules : List CoverageRule
  serviceType : Value

namespace Options

def presenceRules (o : Options) : Attempt (List PresenceRule) := do
  return mergeRules [← presenceRulesFor o.serviceType, o.customRules]

def coverageRules (o : Options) : List CoverageRule :=
  mergeRules [defaultCoverageRules, o.customCoverageRules]

end Options

/-! ### Presence -/

def presenceGap (form : Service.Form) (r : PresenceRule) : Gap where
  id := ""
  rule := r.name
  kind := .missingField
  severity := r.severity
  message := orText r.message r.description
  suggestion := orText r.suggestion ("Add the required " ++ r.name)
  location := ⟨.form, form.id, form.name, .null, .null⟩
  fix := r.fix

/-- A service without forms is not asked for fields; gaps are put at its first form. -/
def missingFields (o : Options) (s : Service) : Attempt (List Gap) :=
  match s.forms with
  | [] => .ok []
  | first :: _ => do
    let broken ← (← o.presenceRules).filterM fun r => do return !(← r.isSatisfied s)
    return broken.map (presenceGap first)

/-! ### Coverage -/

/-- A field and what holds it: its section, or its form. -/
structure PlacedField where
  field : Service.Field
  parentId : Value
  parentName : Value

def placedFields (form : Service.Form) : List PlacedField :=
  form.fields.map (⟨·, form.id, form.name⟩) ++
    form.sections.flatMap fun s => s.fields.map (⟨·, s.id, s.name⟩)

/-- Replaces each occurrence of a text, from the left. -/
def replaceAll (old new : List Char) : Nat → List Char → List Char
  | 0, cs => cs
  | _ + 1, [] => []
  | fuel + 1, c :: cs =>
    if old.isPrefixOf (c :: cs) then new ++ replaceAll old new fuel ((c :: cs).drop old.length)
    else c :: replaceAll old new fuel cs

/-- The template with the name in the place of each marker. -/
def fillName (template name : String) : String :=
  let cs := template.toList
  String.ofList (replaceAll "\x7bname\x7d".toList name.toList cs.length cs)

/-- A rule's name as words. -/
def spaced (name : String) : String :=
  String.ofList (name.toList.map fun c => if c = '_' then ' ' else c)

def coverageFix (r : CoverageRule) (f : Service.Field) (name : String) : Option Fix :=
  r.fixValidation.map fun validation =>
    { action := .addValidation
      params := [(.text "fieldId", f.id), (.text "validation", .map validation)]
      description := "Add " ++ spaced r.name ++ " validation to \"" ++ name ++ "\"" }

/-- The name of the field has to be a text. -/
def coverageGap (r : CoverageRule) (p : PlacedField) : Attempt Gap :=
  match p.field.name with
  | .text name =>
    .ok
      { id := ""
        rule := r.name
        kind := .missingValidation
        severity := r.severity
        message := fillName r.messageTemplate name
        suggestion := orText r.suggestion r.description
        location := ⟨.field, p.field.id, p.field.name, p.parentId, p.parentName⟩
        fix := coverageFix r p.field name }
  | _ => .error .wrongType

def fieldGaps (rules : List CoverageRule) (p : PlacedField) : Attempt (List Gap) := do
  let broken ← rules.filterM fun r => do
    return (← r.appliesTo p.field) && !r.isSatisfied p.field
  broken.mapM (coverageGap · p)

def validationGaps (o : Options) (s : Service) : Attempt (List Gap) := do
  return (← (s.forms.flatMap placedFields).mapM (fieldGaps o.coverageRules)).flatten

/-! ### Topology -/

def topologyGap (r : TopologyRule) (f : Finding) : Gap :=
  ⟨"", r.name, r.kind, r.severity, f.message, f.suggestion, f.location, f.fix⟩

def workflowGaps (s : Service) : Attempt (List Gap) :=
  match s.flow with
  | none => .ok []
  | some p => do
    let found ← TopologyRule.all.mapM fun r => do return (← r.detect p).map (topologyGap r)
    return found.flatten

/-! ### All families -/

def when (wanted : Bool) (gaps : Attempt (List Gap)) : Attempt (List Gap) :=
  if wanted then gaps else .ok []

def number (gaps : List Gap) : List Gap :=
  gaps.mapIdx fun i g => { g with id := "gap-" ++ toString (i + 1) }

def analyze (o : Options) (s : Service) (timestamp : Timestamp) : Attempt Report := do
  let missing ← when o.checkFields (missingFields o s)
  let uncovered ← when o.checkValidation (validationGaps o s)
  let unconnected ← when o.checkWorkflow (workflowGaps s)
  return ⟨timestamp, number (missing ++ uncovered ++ unconnected)⟩

/-- A finished analysis is reported under the id of the service, or else its name. -/
def analysisEvents (s : Service) (r : Report) : List Log.Event :=
  let subject := if s.id.truthy then s.id else s.name
  [{ logger := "service_designer.domain.gaps.analyzer"
     level := .info
     message := "Gap analysis for service " ++ subject.display ++ ": " ++ r.summary
     extra := [("gap_count", .int r.total)] }]

end ServiceBlueprint.Gap
