import ServiceBlueprint.Gap.Chat
import ServiceBlueprint.Gap.RuleSet
import ServiceBlueprint.Settings
import ServiceBlueprint.Storage.Directory

/-!
# Analysis as configured

Rules may be kept in a file, and the settings say which one, for which type of service to look and
how much to show.
-/

namespace ServiceBlueprint

namespace Gap

/-- The rules of a stored document. -/
def RuleSet.ofFile (d : Storage.Directory) (p : Storage.Path) : Attempt RuleSet :=
  match d.readOctets p with
  | .ok octets => do RuleSet.ofMarkup (← Storage.textOf octets)
  | .error reason => .error (.rules (.unreadable p.text reason))

/-- The rules at a path that has yet to be read; no path holds the null character. -/
def RuleSet.ofNamedFile (d : Storage.Directory) : Value → Attempt RuleSet
  | .text name =>
    if name.toList.contains '\x00' then .error .invalidValue else ofFile d (.ofString name)
  | _ => .error .wrongType

end Gap

namespace Settings

/-- The rules that the settings ask for, if they do. -/
def rules? (s : Settings) (d : Storage.Directory) : Attempt (Option Gap.RuleSet) :=
  match s.rulesPath with
  | some p => return some (← Gap.RuleSet.ofFile d p)
  | none => .ok none

def analysisOptions (s : Settings) (rules : Option Gap.RuleSet) : Gap.Options where
  checkFields := true
  checkValidation := true
  checkWorkflow := true
  customRules := (rules.map (·.presence)).getD []
  customCoverageRules := (rules.map (·.coverage)).getD []
  serviceType := .text s.serviceType

def chatOptions (s : Settings) : Gap.ChatOptions :=
  { Gap.ChatOptions.standard with maxPerCategory := s.maxPerCategory }

end Settings

end ServiceBlueprint
