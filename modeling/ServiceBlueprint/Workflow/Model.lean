import ServiceBlueprint.Text.Case
import ServiceBlueprint.Value.Access

/-!
# The role graph of a service

A workflow consists of roles. A role has one status per outcome, and a status owns the transitions
that are taken on that outcome. The pending status is where a role begins; transitions written
under it are never taken. Registrations name the roles that handle them.
-/

namespace ServiceBlueprint.Workflow

inductive RoleType where
  | user
  | bot
  deriving DecidableEq, Repr

namespace RoleType

def name : RoleType → String
  | .user => "USER"
  | .bot => "BOT"

/-- Reads a role type in any letter case, also by what it stands for. -/
def parse? (raw : String) : Option RoleType :=
  if Text.lower raw = "human" then some .user
  else if Text.lower raw = "automated" then some .bot
  else if Text.upper raw = "USER" then some .user
  else if Text.upper raw = "BOT" then some .bot
  else none

end RoleType

inductive StatusCode where
  | pending
  | passed
  | returned
  | rejected
  deriving DecidableEq, Repr

namespace StatusCode

def all : List StatusCode := [.pending, .passed, .returned, .rejected]

def name : StatusCode → String
  | .pending => "PENDING"
  | .passed => "PASSED"
  | .returned => "RETURNED"
  | .rejected => "REJECTED"

def ofName? (s : String) : Option StatusCode :=
  all.find? (·.name = s)

def originatesTransitions (code : StatusCode) : Bool :=
  code ≠ .pending

end StatusCode

structure Transition where
  id : String
  target : Value
  condition : Value
  sortOrder : Int

structure Status where
  id : String
  code : StatusCode
  transitions : List Transition

structure Role where
  id : Value
  name : Value
  type : RoleType
  isStart : Bool
  statuses : List Status
  institutionIds : List Value

structure Registration where
  id : Value
  name : Value
  roleIds : List Value

/-- Transitions by sort order; those of equal order stay as they were. -/
def Status.transitionsInOrder (s : Status) : List Transition :=
  s.transitions.mergeSort fun a b => a.sortOrder ≤ b.sortOrder

namespace Role

def isHuman (r : Role) : Bool :=
  r.type = .user

def statusFor? (r : Role) (code : StatusCode) : Option Status :=
  r.statuses.find? (·.code = code)

/-- The transitions a role can take, in the order they are written. -/
def outgoing (r : Role) : List Transition :=
  (r.statuses.filter (·.code.originatesTransitions)).flatMap (·.transitions)

end Role

end ServiceBlueprint.Workflow

namespace ServiceBlueprint

structure Workflow where
  roles : List Workflow.Role
  registrations : List Workflow.Registration

def Workflow.roleById? (w : Workflow) (id : Value) : Option Workflow.Role :=
  w.roles.find? (·.id == id)

end ServiceBlueprint
