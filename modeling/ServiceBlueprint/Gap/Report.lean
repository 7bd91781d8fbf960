import ServiceBlueprint.Calendar.Timestamp
import ServiceBlueprint.Gap.Basic

/-!
# Gap reports

A report holds the gaps of one analysis in the order in which they were found. It is read by
severity, and summed up in one sentence.
-/

namespace ServiceBlueprint.Gap

structure Report where
  timestamp : Timestamp
  gaps : List Gap

def counted (n : Nat) (one many : String) : String :=
  toString n ++ " " ++ if n = 1 then one else many

/-- The count with its noun, unless there is nothing to count. -/
def countedIfAny (n : Nat) (one many : String) : List String :=
  if n = 0 then [] else [counted n one many]

def summarize (critical warnings suggestions : Nat) : String :=
  if critical + warnings + suggestions = 0 then
    "No gaps detected. Configuration appears complete."
  else
    "Found " ++ ", ".intercalate
      (countedIfAny critical "critical issue" "critical issues" ++
        countedIfAny warnings "warning" "warnings" ++
        countedIfAny suggestions "suggestion" "suggestions") ++ "."

namespace Report

def ofSeverity (r : Report) (s : Severity) : List Gap :=
  r.gaps.filter (·.severity = s)

def total (r : Report) : Nat :=
  r.gaps.length

/-- The gaps in the order of a report: by severity, and as they were found within each. -/
def allGaps (r : Report) : List Gap :=
  Severity.all.flatMap r.ofSeverity

def summary (r : Report) : String :=
  summarize (r.ofSeverity .critical).length (r.ofSeverity .warning).length
    (r.ofSeverity .suggestion).length

def toValue (r : Report) : Value :=
  let gaps (s : Severity) : Value := .list ((r.ofSeverity s).map Gap.toValue)
  .map [(.text "timestamp", .text r.timestamp.isoText), (.text "totalGaps", .int r.total),
    (.text "criticalGaps", gaps .critical), (.text "warningGaps", gaps .warning),
    (.text "suggestionGaps", gaps .suggestion), (.text "summary", .text r.summary)]

/-! ### Fixes -/

def fixable (gaps : List Gap) : List Gap :=
  gaps.filter (·.fix.isSome)

def fixableCount (r : Report) : Nat :=
  (fixable r.allGaps).length

/-- The gaps that have a fix, each with its fix, of all gaps or of those with the given ids. -/
def fixes (r : Report) (ids : Option (List String)) : List (Gap × Fix) :=
  let wanted (g : Gap) : Bool := ids.all (·.contains g.id)
  r.allGaps.filterMap fun g => if wanted g then g.fix.map (g, ·) else none

end Report

end ServiceBlueprint.Gap
