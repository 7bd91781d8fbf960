import ServiceBlueprint.Workflow.Model

/-!
# Loading workflows

Keys may be spelled in camel case or with underscores; of several spellings the first in the lists
below wins. A missing or null mandatory entry, an unknown role type and an unknown status code are
load errors. Entries of an unexpected kind are faults of that kind.
-/

namespace ServiceBlueprint.Workflow

/-- An entry that has to be there and not be null. -/
def require (raw : Value) (owner field : String) (others : List String) : Attempt Value := do
  match ← raw.pick (field :: others) with
  | none => throw (.load (.missingField owner field))
  | some .null => throw (.load (.missingField owner field))
  | some v => return v

def pickOr (raw : Value) (keys : List String) (default : Value) : Attempt Value := do
  return (← raw.pick keys).getD default

def Transition.ofValue (raw : Value) : Attempt Transition := do
  let id ← pickOr raw ["id", "transition_id"] (.text "")
  let target ← require raw "Transition" "toRoleId" ["to_role_id"]
  let condition ← pickOr raw ["condition"] .null
  let sortOrder ← (← pickOr raw ["sortOrder", "sort_order"] (.int 0)).toInt
  return ⟨id.display, target, condition, sortOrder⟩

def StatusCode.ofValue (raw : Value) : Attempt StatusCode :=
  match raw.text?.bind ofName? with
  | some code => .ok code
  | none => .error .invalidValue

def Status.ofValue (raw : Value) : Attempt Status := do
  let code ← require raw "Status" "code" []
  match StatusCode.ofValue code with
  | .error _ => throw (.load (.invalidStatusCode code))
  | .ok status =>
    let id ← pickOr raw ["id", "status_id"] code
    let transitions ← (← pickOr raw ["transitions"] (.list [])).elements
    return ⟨id.display, status, ← transitions.mapM Transition.ofValue⟩

/-- A role type is read from text only. -/
def RoleType.ofValue : Value → Attempt RoleType
  | .text s =>
    match parse? s with
    | some t => .ok t
    | none => .error .invalidValue
  | _ => .error .missingAttribute

def Role.ofValue (raw : Value) : Attempt Role := do
  let id ← require raw "Role" "id" ["role_id"]
  let rawType ← pickOr raw ["roleType", "role_type", "kind"] (.text "USER")
  let type ← match RoleType.ofValue rawType with
    | .error .invalidValue => throw (.load (.invalidRoleType id rawType))
    | other => other
  let name ← pickOr raw ["name"] id
  let isStart ← pickOr raw ["isStartRole", "isStart", "is_start"] (.bool false)
  let statuses ← (← pickOr raw ["statuses"] (.list [])).elements
  let statuses ← statuses.mapM Status.ofValue
  let institutions ← (← pickOr raw ["institutionIds", "institution_ids"] (.list [])).elements
  return ⟨id, name, type, isStart.truthy, statuses, institutions⟩

def Registration.ofValue (raw : Value) : Attempt Registration := do
  let id ← require raw "Registration" "id" ["registration_id"]
  let name ← pickOr raw ["name"] id
  let roleIds ← (← pickOr raw ["roleIds", "role_ids"] (.list [])).elements
  return ⟨id, name, roleIds⟩

end ServiceBlueprint.Workflow

namespace ServiceBlueprint

def Workflow.ofValue (raw : Value) : Attempt Workflow := do
  let roles ← ((← raw.lookup "roles").getD (.list [])).elements
  let roles ← roles.mapM Workflow.Role.ofValue
  let registrations ← ((← raw.lookup "registrations").getD (.list [])).elements
  return ⟨roles, ← registrations.mapM Workflow.Registration.ofValue⟩

end ServiceBlueprint
