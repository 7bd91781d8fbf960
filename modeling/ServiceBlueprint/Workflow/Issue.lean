import ServiceBlueprint.Value.Literal

/-!
# What can be wrong with a workflow

An issue is an error, which blocks publishing, or a warning. Issues about a role or a registration
name it by id and name.
-/

namespace ServiceBlueprint.Workflow

inductive Severity where
  | error
  | warning
  deriving DecidableEq, Repr

def Severity.name : Severity → String
  | .error => "ERROR"
  | .warning => "WARNING"

/-- What an issue is about. -/
structure Subject where
  id : Value
  name : Value

inductive Issue where
  | noRoles
  | noStartRole
  | multipleStartRoles (names : List String)
  | noTransitions
  | noEndRole
  | unreachableRole (role : Subject)
  | orphanRole (role : Subject)
  | unboundRegistration (registration : Subject)
  | unassignedInstitution (role : Subject)

namespace Issue

def code : Issue → String
  | .noRoles => "NO_ROLES"
  | .noStartRole => "NO_START_ROLE"
  | .multipleStartRoles _ => "MULTIPLE_START_ROLES"
  | .noTransitions => "NO_TRANSITIONS"
  | .noEndRole => "NO_END_ROLE"
  | .unreachableRole _ => "UNREACHABLE_ROLE"
  | .orphanRole _ => "ORPHAN_ROLE"
  | .unboundRegistration _ => "UNBOUND_REGISTRATION"
  | .unassignedInstitution _ => "UNASSIGNED_INSTITUTION"

def severity : Issue → Severity
  | .noRoles => .error
  | .noStartRole => .error
  | .multipleStartRoles _ => .error
  | .noTransitions => .warning
  | .noEndRole => .warning
  | .unreachableRole _ => .error
  | .orphanRole _ => .warning
  | .unboundRegistration _ => .warning
  | .unassignedInstitution _ => .error

def message : Issue → String
  | .noRoles => "No workflow roles defined. Add at least one role to create a workflow."
  | .noStartRole => "No start role defined. Mark one role as the start role."
  | .multipleStartRoles names =>
    "Multiple start roles found: " ++ ", ".intercalate names ++ ". Only one start role is allowed."
  | .noTransitions =>
    "No transitions defined between roles. Configure transitions to create the workflow flow."
  | .noEndRole =>
    "No terminal roles found. Ensure at least one role has no outgoing transitions."
  | .unreachableRole role =>
    "Role \"" ++ role.name.display ++ "\" is not reachable from the start role."
  | .orphanRole role =>
    "Role \"" ++ role.name.display ++
      "\" has no incoming transitions and is not the start role."
  | .unboundRegistration registration =>
    "Registration \"" ++ registration.name.display ++ "\" has no processing roles."
  | .unassignedInstitution role =>
    "Role \"" ++ role.name.display ++ "\" requires institution assignment for publishing."

def role? : Issue → Option Subject
  | .unreachableRole role => some role
  | .orphanRole role => some role
  | .unassignedInstitution role => some role
  | _ => none

def registration? : Issue → Option Subject
  | .unboundRegistration registration => some registration
  | _ => none

def text (i : Issue) : String :=
  "[" ++ i.severity.name ++ ":" ++ i.code ++ "] " ++ i.message

end Issue

/-- Issues in the order of the rules that raise them. -/
structure Review where
  issues : List Issue

namespace Review

def errors (r : Review) : List Issue :=
  r.issues.filter (·.severity = .error)

def warnings (r : Review) : List Issue :=
  r.issues.filter (·.severity = .warning)

def valid (r : Review) : Bool :=
  r.errors.isEmpty

end Review

end ServiceBlueprint.Workflow
