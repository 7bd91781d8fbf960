import ServiceBlueprint.Fault
import ServiceBlueprint.Gap.Basic
import ServiceBlueprint.Service.Model

/-!
# Gaps in the flow of a service

A flow needs a start and a terminal step, every other step has to be connected, and only a
terminal step may be without a transition that leaves it. Ids that are compared with the ends of
transitions have to be keys.
-/

namespace ServiceBlueprint.Gap

open Service

structure Finding where
  message : String
  suggestion : String
  location : Location
  fix : Option Fix

def flowLocation (p : Flow) : Location :=
  ⟨.workflow, p.id, p.name, .null, .null⟩

def stepLocation (p : Flow) (s : Step) : Location :=
  ⟨.step, s.id, s.name, p.id, if p.name.truthy then p.name else .null⟩

def isStart (p : Flow) (s : Step) : Bool :=
  s.isStart || s.id == p.startStepId

def stepFix (action : Action) (s : Step) (description : String) : Fix :=
  ⟨action, [(.text "stepId", s.id)], description⟩

def missingStart (p : Flow) : List Finding :=
  match p.steps with
  | [] => []
  | first :: _ =>
    if p.startStepId.truthy || p.steps.any (·.isStart) then []
    else
      [{ message := "Workflow has no designated start step"
         suggestion := "Set one step as the start step"
         location := flowLocation p
         fix := some (stepFix .addStartState first
           ("Set \"" ++ first.name.display ++ "\" as start step")) }]

def missingTerminal (p : Flow) : List Finding :=
  if p.steps.isEmpty || p.steps.any (·.isTerminal) then []
  else
    [{ message := "Workflow has no terminal (end) step"
       suggestion := "Mark at least one step as terminal"
       location := flowLocation p
       fix := none }]

def sources (p : Flow) : List Value :=
  p.transitions.map (·.source)

def targets (p : Flow) : List Value :=
  p.transitions.map (·.target)

def requireKeys (vs : List Value) : Attempt Unit :=
  if vs.all (·.isKey) then .ok () else .error .wrongType

def orphanFinding (p : Flow) (s : Step) : Finding where
  message := "Step \"" ++ s.name.display ++ "\" is not connected to any other step"
  suggestion := "Add a transition to this step or remove it"
  location := stepLocation p s
  fix := some (stepFix .removeStep s ("Remove orphan step \"" ++ s.name.display ++ "\""))

def orphanSteps (p : Flow) : Attempt (List Finding) := do
  let candidates := p.steps.filter fun s => !isStart p s
  requireKeys (sources p ++ targets p ++ candidates.map (·.id))
  let orphans := candidates.filter fun s =>
    !(sources p).contains s.id && !(targets p).contains s.id
  return orphans.map (orphanFinding p)

def deadEndFinding (p : Flow) (s : Step) : Finding where
  message := "Step \"" ++ s.name.display ++ "\" has no outgoing transitions"
  suggestion := "Add transitions or mark as terminal step"
  location := stepLocation p s
  fix := some (stepFix .setTerminal s ("Mark \"" ++ s.name.display ++ "\" as terminal step"))

def deadEnds (p : Flow) : Attempt (List Finding) := do
  let candidates := p.steps.filter fun s => !s.isTerminal
  requireKeys (sources p ++ candidates.map (·.id))
  let ends := candidates.filter fun s => !(sources p).contains s.id
  return ends.map (deadEndFinding p)

/-- The rules on flows; each finds any number of gaps of one kind. -/
inductive TopologyRule where
  | startStep
  | terminalStep
  | orphanSteps
  | deadEnds
  deriving DecidableEq, Repr

namespace TopologyRule

def all : List TopologyRule := [.startStep, .terminalStep, .orphanSteps, .deadEnds]

def name : TopologyRule → String
  | .startStep => "start_step"
  | .terminalStep => "terminal_step"
  | .orphanSteps => "orphan_steps"
  | .deadEnds => "dead_ends"

def kind : TopologyRule → Kind
  | .startStep => .missingStartState
  | .terminalStep => .missingEndState
  | .orphanSteps => .orphanStep
  | .deadEnds => .missingTransition

def severity (_ : TopologyRule) : Severity := .critical

def detect (r : TopologyRule) (p : Flow) : Attempt (List Finding) :=
  match r with
  | .startStep => .ok (missingStart p)
  | .terminalStep => .ok (missingTerminal p)
  | .orphanSteps => Gap.orphanSteps p
  | .deadEnds => Gap.deadEnds p

end TopologyRule

end ServiceBlueprint.Gap
