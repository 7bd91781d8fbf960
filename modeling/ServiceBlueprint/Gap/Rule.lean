import ServiceBlueprint.Form.FieldType
import ServiceBlueprint.Gap.Basic
import ServiceBlueprint.Service.Model

/-!
# Rules that find gaps in fields

A presence rule asks for one field, anywhere in the service, whose name contains one of its
patterns or whose type is among its types. A coverage rule asks of every field of certain types
that its validation sets one of certain keys. Rules are told apart by name. What a rule asks for is
data; rules that decide by a function of their own are left out.
-/

namespace ServiceBlueprint.Gap

structure PresenceRule where
  name : String
  description : String
  severity : Severity
  patterns : List String
  types : List FieldType
  fix : Option Fix
  message : String
  suggestion : String

structure CoverageRule where
  name : String
  description : String
  severity : Severity
  types : List FieldType
  /-- A field is covered by any one of these keys. -/
  anyOf : List String
  fixValidation : Option (List (Value × Value))
  /-- The message, in which the field's name takes the place of a marker. -/
  messageTemplate : String
  suggestion : String

/-- The first of two texts that is not empty. -/
def orText (s t : String) : String :=
  if s = "" then t else s

namespace PresenceRule

/-- Whether a name, in whatever letter case, contains one of the patterns. -/
def matchesName (r : PresenceRule) (name : String) : Bool :=
  r.patterns.any fun p => Value.occursIn (Text.lower p).toList (Text.lower name).toList

/-- Names, and types where they are asked for, have to be texts. -/
def matchesField (r : PresenceRule) (f : Service.Field) : Attempt Bool :=
  match f.name with
  | .text name =>
    if r.matchesName name then .ok true
    else if r.types.isEmpty then .ok false
    else
      match f.type with
      | .text type => .ok ((FieldType.parse? type).any r.types.contains)
      | _ => .error .missingAttribute
  | _ => .error .missingAttribute

/-- Looks at fields in turn and no further than the first that matches. -/
def anyMatches (r : PresenceRule) : List Service.Field → Attempt Bool
  | [] => .ok false
  | f :: fs =>
    match r.matchesField f with
    | .ok false => anyMatches r fs
    | other => other

def isSatisfied (r : PresenceRule) (s : Service) : Attempt Bool :=
  r.anyMatches s.allFields

end PresenceRule

namespace CoverageRule

def appliesTo (r : CoverageRule) (f : Service.Field) : Attempt Bool :=
  match f.type with
  | .text type => .ok ((FieldType.parse? type).any r.types.contains)
  | _ => .error .missingAttribute

/-- A key counts as set unless its value is null or the empty text. -/
def isSatisfied (r : CoverageRule) (f : Service.Field) : Bool :=
  r.anyOf.any fun key =>
    match f.validation.find? (.text key) with
    | none => false
    | some .null => false
    | some (.text s) => s ≠ ""
    | some _ => true

end CoverageRule

/-- What has a name that tells it apart. -/
class Named (α : Type) where
  name : α → String

instance : Named PresenceRule := ⟨PresenceRule.name⟩

instance : Named CoverageRule := ⟨CoverageRule.name⟩

/-- Rule sets one after another, with the first rule of each name. -/
def mergeRules {α : Type} [Named α] (sets : List (List α)) : List α :=
  sets.flatten.foldl
    (fun kept r => if kept.any (Named.name · == Named.name r) then kept else kept ++ [r]) []

end ServiceBlueprint.Gap
