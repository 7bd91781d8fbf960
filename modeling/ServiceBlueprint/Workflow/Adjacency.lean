import ServiceBlueprint.Table

/-!
# Adjacency of a graph with named nodes

Outgoing and incoming neighbours are kept by node, in the order in which edges come. A node is
known on the incoming side only if it was entered there; an edge to any other node is recorded as
outgoing alone. `Adjacency.Reachable` is the reflexive and transitive closure of the outgoing edges,
and `reachableFrom` computes it breadth first.
-/

namespace ServiceBlueprint

structure Adjacency (κ : Type) where
  outgoing : Table κ (List κ)
  incoming : Table κ (List κ)

namespace Adjacency

variable {κ : Type} [BEq κ]

def empty : Adjacency κ := ⟨[], []⟩

def targets (g : Adjacency κ) (node : κ) : List κ :=
  (g.outgoing.find? node).getD []

def sources (g : Adjacency κ) (node : κ) : List κ :=
  (g.incoming.find? node).getD []

/-- Enters a node that has no neighbours yet. -/
def addNode (g : Adjacency κ) (node : κ) : Adjacency κ :=
  ⟨g.outgoing.insert node [], g.incoming.insert node []⟩

def addEdge (g : Adjacency κ) (source target : κ) : Adjacency κ :=
  ⟨(g.outgoing.ensure source []).modify source (addUnlessThere · target),
    g.incoming.modify target (addUnlessThere · source)⟩

def hasEdges (g : Adjacency κ) : Bool :=
  g.outgoing.any fun e => !e.2.isEmpty

/-- The nodes without outgoing edges, in order. -/
def terminals (g : Adjacency κ) : List κ :=
  Table.keys (g.outgoing.filter (·.2.isEmpty))

/-- Of the given nodes those not seen yet, each once. -/
def unseen (seen : List κ) : List κ → List κ
  | [] => []
  | x :: xs => if seen.contains x then unseen seen xs else x :: unseen (seen ++ [x]) xs

/-- Visits the nodes of a queue in turn. Every node enters the queue at most once. -/
def visit (g : Adjacency κ) : (fuel : Nat) → (seen queue : List κ) → List κ
  | 0, seen, _ => seen
  | _ + 1, seen, [] => seen
  | fuel + 1, seen, node :: queue =>
    let fresh := unseen seen (g.targets node)
    visit g fuel (seen ++ fresh) (queue ++ fresh)

def edgeCount (g : Adjacency κ) : Nat :=
  (g.outgoing.flatMap (·.2)).length

def reachableFrom (g : Adjacency κ) (start : κ) : List κ :=
  g.visit (g.edgeCount + 1) [start] [start]

inductive Reachable (g : Adjacency κ) (start : κ) : κ → Prop
  | refl : Reachable g start start
  | step {node target : κ} :
    Reachable g start node → target ∈ g.targets node → Reachable g start target

end Adjacency

end ServiceBlueprint
