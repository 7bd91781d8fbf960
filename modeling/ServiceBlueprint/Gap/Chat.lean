import ServiceBlueprint.Gap.Report
import ServiceBlueprint.Value.Access

/-!
# Gap reports as conversation

A report is rendered as text, with or without markup, one group per severity that has gaps. At
most a given number of gaps is shown in each group, and the others are announced. The closing
lines offer the fixes there are.
-/

namespace ServiceBlueprint.Gap

structure ChatOptions where
  includeFixes : Bool
  includeIds : Bool
  /-- Without a limit all gaps are shown. -/
  maxPerCategory : Option Int
  useMarkdown : Bool

def ChatOptions.standard : ChatOptions := ⟨true, false, none, true⟩

/-- Where a gap is, in words. -/
def locationText (g : Gap) : String :=
  let l := g.location
  " ".intercalate (l.entity.name ::
    ((if l.name.truthy then ["\"" ++ l.name.display ++ "\""] else []) ++
      if l.parentName.truthy then ["in " ++ l.parentName.display] else []))

def bold (markdown : Bool) (s : String) : String :=
  if markdown then "**" ++ s ++ "**" else s

/-- The lines of one gap. With markup, details are items of a list. -/
def itemLines (o : ChatOptions) (g : Gap) : List String :=
  let detail := if o.useMarkdown then "  - " else "  "
  ["- " ++ bold o.useMarkdown g.message, detail ++ "Location: " ++ locationText g,
    detail ++ "Suggestion: " ++ g.suggestion] ++
  (match g.fix with
    | some f => if o.includeFixes then [detail ++ "Fix: " ++ f.description] else []
    | none => []) ++
  if o.includeIds then ["  ID: " ++ g.id] else []

def shownCount (o : ChatOptions) (n : Nat) : Nat :=
  match o.maxPerCategory with
  | none => n
  | some limit => min n limit.toNat

def heading (o : ChatOptions) (title : String) (n : Nat) : String :=
  if o.useMarkdown then "\n### " ++ title ++ " (" ++ toString n ++ ")\n"
  else "\n" ++ title ++ " (" ++ toString n ++ "):\n"

def remainderLines (o : ChatOptions) (n : Nat) : List String :=
  let r := n - shownCount o n
  if r = 0 then [] else ["  ... and " ++ toString r ++ " more"]

/-- The lines of one group; an empty group has none. -/
def groupLines (o : ChatOptions) (title : String) (gaps : List Gap) : List String :=
  if gaps.isEmpty then []
  else
    heading o title gaps.length ::
      ((gaps.take (shownCount o gaps.length)).flatMap (itemLines o) ++
        remainderLines o gaps.length)

def groupTitle : Severity → String
  | .critical => "Critical Issues"
  | .warning => "Warnings"
  | .suggestion => "Suggestions"

def fixQuestion : String := "Would you like me to fix these issues?"

def noticeLines (o : ChatOptions) (fixable : Nat) : List String :=
  if fixable = 0 then []
  else
    ["", bold o.useMarkdown
      (counted fixable "gap has" "gaps have" ++ " automatic fixes available."), fixQuestion]

namespace Report

def chatLines (r : Report) (o : ChatOptions) : List String :=
  if r.total = 0 then
    [bold o.useMarkdown "Configuration Analysis Complete", "",
      "No gaps detected. Your configuration appears complete and valid."]
  else
    [bold o.useMarkdown "Configuration Gaps Detected" ++ "\n", r.summary ++ "\n"] ++
    (Severity.all.flatMap fun s => groupLines o (groupTitle s) (r.ofSeverity s)) ++
    noticeLines o r.fixableCount

def chat (r : Report) (o : ChatOptions) : String :=
  "\n".intercalate (r.chatLines o)

/-- Offers to apply the fixes there are, by severity. -/
def fixPrompt? (r : Report) : Option String :=
  let count (s : Severity) : Nat := (fixable (r.ofSeverity s)).length
  if count .critical + count .warning + count .suggestion = 0 then none
  else
    some ("I can automatically fix " ++ ", ".intercalate
      (countedIfAny (count .critical) "critical" "critical" ++
        countedIfAny (count .warning) "warning" "warnings" ++
        countedIfAny (count .suggestion) "suggestion" "suggestions") ++
      ". Would you like me to fix all issues, or would you prefer to select specific ones?")

end Report

end ServiceBlueprint.Gap
