import ServiceBlueprint.Gap.Chat

/-!
# Gap reports as a listing

A structured summary of a report, with the place of each gap in words and its fix reduced to what
is shown.
-/

namespace ServiceBlueprint.Gap

structure ListedGap where
  id : String
  kind : Kind
  severity : Severity
  message : String
  suggestion : String
  location : String
  fix : Option (Action × String)

structure Listing where
  timestamp : String
  total : Nat
  summary : String
  fixableCount : Nat
  critical : List ListedGap
  warnings : List ListedGap
  suggestions : List ListedGap

def ListedGap.ofGap (g : Gap) : ListedGap :=
  ⟨g.id, g.kind, g.severity, g.message, g.suggestion, locationText g,
    g.fix.map fun f => (f.action, f.description)⟩

def ListedGap.hasFix (g : ListedGap) : Bool :=
  g.fix.isSome

def Report.listing (r : Report) : Listing :=
  let listed (s : Severity) : List ListedGap := (r.ofSeverity s).map ListedGap.ofGap
  ⟨r.timestamp.isoText, r.total, r.summary, r.fixableCount, listed .critical, listed .warning,
    listed .suggestion⟩

def Listing.hasFixable (l : Listing) : Bool :=
  l.fixableCount > 0

def ListedGap.toValue (g : ListedGap) : Value :=
  .map ([(.text "id", .text g.id), (.text "type", .text g.kind.name),
    (.text "severity", .text g.severity.name), (.text "message", .text g.message),
    (.text "suggestion", .text g.suggestion), (.text "location", .text g.location),
    (.text "hasFix", .bool g.hasFix)] ++
    match g.fix with
    | some (action, description) =>
      [(.text "fix", .map [(.text "action", .text action.name),
        (.text "description", .text description)])]
    | none => [])

def Listing.toValue (l : Listing) : Value :=
  .map [(.text "timestamp", .text l.timestamp), (.text "totalGaps", .int l.total),
    (.text "summary", .text l.summary), (.text "hasFixableGaps", .bool l.hasFixable),
    (.text "fixableCount", .int l.fixableCount),
    (.text "critical", .list (l.critical.map ListedGap.toValue)),
    (.text "warnings", .list (l.warnings.map ListedGap.toValue)),
    (.text "suggestions", .list (l.suggestions.map ListedGap.toValue))]

end ServiceBlueprint.Gap
