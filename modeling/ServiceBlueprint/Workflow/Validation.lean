import ServiceBlueprint.Log.Event
import ServiceBlueprint.Workflow.Graph
import ServiceBlueprint.Workflow.Issue

/-!
# Validating a workflow

Eight rules are checked in a fixed order: there are roles; one of them is the start; roles are
connected; some role ends the workflow; every role can be reached; every role but the start is
entered; registrations are bound; human roles have an institution. Without roles nothing else is
checked.
-/

namespace ServiceBlueprint.Workflow

def Role.subject (r : Role) : Subject := ⟨r.id, r.name⟩

def Registration.subject (r : Registration) : Subject := ⟨r.id, r.name⟩

def startRoles (roles : List Role) : List Role :=
  roles.filter (·.isStart)

/-- Only texts can be listed. -/
def listedNames (roles : List Role) : Attempt (List String) :=
  match Value.allText? (roles.map (·.name)) with
  | some names => .ok names
  | none => .error .wrongType

def startIssues (roles : List Role) : Attempt (List Issue) :=
  match startRoles roles with
  | [] => .ok [.noStartRole]
  | [_] => .ok []
  | several => do return [.multipleStartRoles (← listedNames several)]

def flowIssues (roles : List Role) (g : Adjacency Value) : List Issue :=
  (if !g.hasEdges && roles.length > 1 then [.noTransitions] else []) ++
  (if g.hasEdges && g.terminals.isEmpty then [.noEndRole] else [])

def reachabilityIssues (roles : List Role) (g : Adjacency Value) : List Issue :=
  match startRoles roles with
  | [start] =>
    let reached := g.reachableFrom start.id
    (roles.filter fun r => !reached.contains r.id).map fun r => .unreachableRole r.subject
  | _ => []

def orphanIssues (roles : List Role) (g : Adjacency Value) : List Issue :=
  if g.hasEdges then
    (roles.filter fun r => !r.isStart && (g.sources r.id).isEmpty).map fun r =>
      .orphanRole r.subject
  else []

def bindingIssues (roles : List Role) (registrations : List Registration) : List Issue :=
  ((registrations.filter (·.roleIds.isEmpty)).map fun r => .unboundRegistration r.subject) ++
  ((roles.filter fun r => r.isHuman && r.institutionIds.isEmpty).map fun r =>
    .unassignedInstitution r.subject)

def review (roles : List Role) (registrations : List Registration) : Attempt Review :=
  if roles.isEmpty then .ok ⟨[.noRoles]⟩
  else do
    let start ← startIssues roles
    let g ← graph roles
    return ⟨start ++ flowIssues roles g ++ reachabilityIssues roles g ++ orphanIssues roles g ++
      bindingIssues roles registrations⟩

/-- A review that was made reports the size of the workflow and of the review. -/
def reviewEvents (roles : List Role) (registrations : List Registration) : List Log.Event :=
  match review roles registrations with
  | .ok r =>
    if roles.isEmpty then []
    else
      [.plain "service_designer.domain.workflow.validator" .debug
        ("Validated workflow with " ++ toString roles.length ++ " roles: " ++
          toString r.errors.length ++ " errors, " ++ toString r.warnings.length ++ " warnings")]
  | .error _ => []

end ServiceBlueprint.Workflow

namespace ServiceBlueprint

def Workflow.validate (w : Workflow) : Attempt Workflow.Review :=
  Workflow.review w.roles w.registrations

end ServiceBlueprint
