import ServiceBlueprint.Workflow.Adjacency
import ServiceBlueprint.Workflow.Model

/-!
# The graph of a list of roles

Nodes are role ids, edges the transitions that roles can take. Ids that may not be keys have no
graph. A transition to an id that no role has gives an outgoing edge and no incoming one.
-/

namespace ServiceBlueprint.Workflow

/-- The pairs of role id and target id of all transitions that can be taken. -/
def edges (roles : List Role) : List (Value × Value) :=
  roles.flatMap fun r => r.outgoing.map fun t => (r.id, t.target)

def graphOf (roles : List Role) : Adjacency Value :=
  let nodes := roles.foldl (fun g r => g.addNode r.id) Adjacency.empty
  (edges roles).foldl (fun g e => g.addEdge e.1 e.2) nodes

def graph (roles : List Role) : Attempt (Adjacency Value) :=
  if roles.all (·.id.isKey) && (edges roles).all (·.2.isKey) then .ok (graphOf roles)
  else .error .wrongType

end ServiceBlueprint.Workflow

namespace ServiceBlueprint.Adjacency

/-- Adds an edge between ids as they come. An id that may not be a key is recorded as a target
before it is refused. -/
def connect (g : Adjacency Value) (source target : Value) : Adjacency Value × Attempt Unit :=
  if !source.isKey then (g, .error .wrongType)
  else (g.addEdge source target, if target.isKey then .ok () else .error .wrongType)

/-- The ids reachable from a start, unless one that may not be a key is met on the way. -/
def reachable (g : Adjacency Value) (start : Value) : Attempt (List Value) :=
  let found := g.reachableFrom start
  if found.all (·.isKey) then .ok found else .error .wrongType

def ofTables (outgoing incoming : List (Value × List Value)) : Attempt (Adjacency Value) :=
  if (outgoing ++ incoming).all (·.1.isKey) then
    .ok ⟨Table.ofList outgoing, Table.ofList incoming⟩
  else .error .wrongType

end ServiceBlueprint.Adjacency
