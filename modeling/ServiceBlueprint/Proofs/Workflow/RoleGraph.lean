import Mathlib.Logic.Relation
import ServiceBlueprint.Proofs.Value.Text
import ServiceBlueprint.Proofs.Workflow.Edges
import ServiceBlueprint.Proofs.Workflow.Search
import ServiceBlueprint.Workflow.Graph

/-!
# The relation that a role graph stands for

`LeadsTo` is read off the roles alone: some transition of a status other than the pending one goes
from the first id to the second. `PassesTo` is the same up to the sameness of values, and where ids
are texts there is no difference. Up to sameness the graph of the roles has just this relation as
its edges in both directions, though it keeps one of several targets that are the same. For texts,
what its search finds from an id is the reflexive and transitive closure.
-/

namespace ServiceBlueprint.Workflow

def LeadsTo (roles : List Role) (a b : Value) : Prop :=
  ∃ r ∈ roles, r.id = a ∧
    ∃ s ∈ r.statuses, s.code ≠ .pending ∧ ∃ t ∈ s.transitions, t.target = b

/-- A transition that can be taken leads from a role of the first id to the second. -/
def PassesTo (roles : List Role) (a b : Value) : Prop :=
  ∃ r ∈ roles, (r.id == a) = true ∧
    ∃ s ∈ r.statuses, s.code ≠ .pending ∧ ∃ t ∈ s.transitions, (t.target == b) = true

/-- No transition leads anywhere from the id, whichever of its roles would take it. -/
def IsEnd (roles : List Role) (a : Value) : Prop :=
  ∀ b, ¬ PassesTo roles a b

/-- Ids, and targets of transitions that can be taken, may be keys of a graph. -/
def Keyed (roles : List Role) : Prop :=
  ∀ r ∈ roles, r.id.isKey = true ∧ ∀ t ∈ r.outgoing, t.target.isKey = true

/-- Ids are texts, and so are the targets of transitions that can be taken. -/
structure TextIds (roles : List Role) : Prop where
  ids : ∀ r ∈ roles, r.id.isText = true
  targets : ∀ r ∈ roles, ∀ t ∈ r.outgoing, t.target.isText = true

theorem mem_outgoing_iff {r : Role} {t : Transition} :
    t ∈ r.outgoing ↔ ∃ s ∈ r.statuses, s.code ≠ .pending ∧ t ∈ s.transitions := by
  simp [Role.outgoing, StatusCode.originatesTransitions, and_assoc]

theorem mem_edges_iff {roles : List Role} {a b : Value} :
    (a, b) ∈ edges roles ↔ LeadsTo roles a b := by
  unfold edges LeadsTo
  rw [List.mem_flatMap]
  constructor
  · rintro ⟨r, hr, he⟩
    obtain ⟨t, ht, heq⟩ := List.mem_map.mp he
    obtain ⟨s, hs, hcode, hts⟩ := mem_outgoing_iff.mp ht
    cases heq
    exact ⟨r, hr, rfl, s, hs, hcode, t, hts, rfl⟩
  · rintro ⟨r, hr, rfl, s, hs, hcode, t, hts, rfl⟩
    exact ⟨r, hr, List.mem_map.mpr ⟨t, mem_outgoing_iff.mpr ⟨s, hs, hcode, hts⟩, rfl⟩⟩

theorem passesTo_iff_exists_edge {roles : List Role} {a b : Value} :
    PassesTo roles a b ↔ ∃ e ∈ edges roles, (e.1 == a) = true ∧ (e.2 == b) = true := by
  constructor
  · rintro ⟨r, hr, ha, s, hs, hcode, t, ht, hb⟩
    exact ⟨(r.id, t.target), mem_edges_iff.mpr ⟨r, hr, rfl, s, hs, hcode, t, ht, rfl⟩, ha, hb⟩
  · rintro ⟨e, he, ha, hb⟩
    obtain ⟨r, hr, hid, s, hs, hcode, t, ht, htarget⟩ := mem_edges_iff.mp he
    exact ⟨r, hr, hid ▸ ha, s, hs, hcode, t, ht, htarget ▸ hb⟩

theorem edges_isEmpty_iff {roles : List Role} :
    (edges roles).isEmpty = true ↔ ∀ a b, ¬ LeadsTo roles a b := by
  rw [List.isEmpty_iff, List.eq_nil_iff_forall_not_mem]
  constructor
  · exact fun h a b hab => h (a, b) (mem_edges_iff.mpr hab)
  · exact fun h e he => h e.1 e.2 (mem_edges_iff.mp he)

theorem TextIds.edge {roles : List Role} (ht : TextIds roles) {e : Value × Value}
    (he : e ∈ edges roles) : e.1.isText = true ∧ e.2.isText = true := by
  obtain ⟨r, hr, he⟩ := List.mem_flatMap.mp he
  obtain ⟨t, hm, rfl⟩ := List.mem_map.mp he
  exact ⟨ht.ids r hr, ht.targets r hr t hm⟩

theorem TextIds.passesTo_iff {roles : List Role} (ht : TextIds roles) {a b : Value} :
    PassesTo roles a b ↔ LeadsTo roles a b := by
  rw [passesTo_iff_exists_edge, ← mem_edges_iff]
  constructor
  · rintro ⟨e, he, ha, hb⟩
    rw [Value.beq_iff_eq_of_isText (ht.edge he).1] at ha
    rw [Value.beq_iff_eq_of_isText (ht.edge he).2] at hb
    rwa [← ha, ← hb]
  · exact fun he => ⟨(a, b), he, BEq.rfl, BEq.rfl⟩

theorem TextIds.keyed {roles : List Role} (ht : TextIds roles) : Keyed roles :=
  fun r hr => ⟨Value.isKey_of_isText (ht.ids r hr),
    fun t hm => Value.isKey_of_isText (ht.targets r hr t hm)⟩

/-! ### Building the graph -/

theorem keyed_iff {roles : List Role} :
    Keyed roles ↔ (∀ r ∈ roles, r.id.isKey = true) ∧ ∀ e ∈ edges roles, e.2.isKey = true := by
  unfold Keyed edges
  simp only [List.mem_flatMap, List.mem_map, forall_exists_index, and_imp]
  constructor
  · intro h
    refine ⟨fun r hr => (h r hr).1, ?_⟩
    rintro e r hr t ht rfl
    exact (h r hr).2 t ht
  · rintro ⟨hids, htargets⟩ r hr
    exact ⟨hids r hr, fun t ht => htargets _ r hr t ht rfl⟩

theorem graph_eq_ok_iff {roles : List Role} {g : Adjacency Value} :
    graph roles = .ok g ↔ Keyed roles ∧ g = graphOf roles := by
  rw [graph, keyed_iff, ← List.all_eq_true, ← List.all_eq_true, ← Bool.and_eq_true]
  split
  next hall =>
    constructor
    · exact fun h => ⟨hall, (Except.ok.inj h).symm⟩
    · rintro ⟨-, rfl⟩
      rfl
  next hall =>
    constructor
    · intro h
      cases h
    · exact fun h => absurd h.1 hall

theorem graphOf_eq (roles : List Role) :
    graphOf roles = (Adjacency.empty.addNodes (roles.map (·.id))).addEdges (edges roles) := by
  unfold graphOf Adjacency.addNodes
  rw [List.foldl_map]
  rfl

/-- The graph of some roles holds their ids and their edges. -/
theorem records_graphOf (roles : List Role) :
    (graphOf roles).Records (roles.map (·.id)) (edges roles) := by
  rw [graphOf_eq]
  exact (Adjacency.records_nodes _).addEdges _

theorem contains_id_of_mem {roles : List Role} {r : Role} (hr : r ∈ roles) :
    (roles.map (·.id)).contains r.id = true :=
  Adjacency.contains_of_mem (List.mem_map_of_mem hr)

/-! ### Neighbours in the graph -/

theorem contains_targets_graphOf {roles : List Role} {a b : Value} :
    ((graphOf roles).targets a).contains b = true ↔ PassesTo roles a b := by
  rw [(records_graphOf roles).contains_targets_iff, passesTo_iff_exists_edge]

theorem contains_sources_graphOf {roles : List Role} {r : Role} (hr : r ∈ roles) {a : Value} :
    ((graphOf roles).sources r.id).contains a = true ↔ PassesTo roles a r.id := by
  rw [(records_graphOf roles).contains_sources_iff, and_iff_right (contains_id_of_mem hr),
    passesTo_iff_exists_edge]

theorem sources_graphOf_isEmpty_iff {roles : List Role} {r : Role} (hr : r ∈ roles) :
    ((graphOf roles).sources r.id).isEmpty = true ↔ ∀ a, ¬ PassesTo roles a r.id := by
  rw [List.isEmpty_iff, eq_nil_iff_contains]
  simp only [contains_sources_graphOf hr]

theorem mem_targets_graphOf {roles : List Role} (ht : TextIds roles) {a b : Value} :
    b ∈ (graphOf roles).targets a ↔ LeadsTo roles a b := by
  rw [← ht.passesTo_iff, ← contains_targets_graphOf]
  constructor
  · exact Adjacency.contains_of_mem
  · intro hb
    have he := mem_edges_iff.mpr (ht.passesTo_iff.mp (contains_targets_graphOf.mp hb))
    exact (Value.contains_iff_mem (ht.edge he).2).mp hb

theorem hasEdges_graphOf (roles : List Role) :
    (graphOf roles).hasEdges = !(edges roles).isEmpty :=
  (records_graphOf roles).hasEdges_eq

theorem hasEdges_graphOf_iff {roles : List Role} :
    (graphOf roles).hasEdges = true ↔ ∃ a b, LeadsTo roles a b := by
  rw [hasEdges_graphOf, Bool.not_eq_true', ← Bool.not_eq_true, edges_isEmpty_iff]
  simp only [not_forall, not_not]

theorem hasEdges_graphOf_iff_passesTo {roles : List Role} :
    (graphOf roles).hasEdges = true ↔ ∃ a b, PassesTo roles a b := by
  rw [hasEdges_graphOf_iff]
  constructor
  · rintro ⟨a, b, h⟩
    exact ⟨a, b, passesTo_iff_exists_edge.mpr ⟨(a, b), mem_edges_iff.mpr h, BEq.rfl, BEq.rfl⟩⟩
  · rintro ⟨a, b, h⟩
    obtain ⟨e, he, -⟩ := passesTo_iff_exists_edge.mp h
    exact ⟨e.1, e.2, mem_edges_iff.mp he⟩

/-- There is no terminal exactly if the entry of every role has targets. -/
theorem terminals_isEmpty_graphOf (roles : List Role) :
    (graphOf roles).terminals.isEmpty = true ↔ ∀ r ∈ roles, (graphOf roles).targets r.id ≠ [] := by
  rw [(records_graphOf roles).terminals_isEmpty_iff, List.forall_mem_map]

theorem terminals_graphOf_isEmpty_iff {roles : List Role} :
    (graphOf roles).terminals.isEmpty = true ↔ ¬ ∃ e ∈ roles, IsEnd roles e.id := by
  simp only [terminals_isEmpty_graphOf, IsEnd, ne_eq, eq_nil_iff_contains, contains_targets_graphOf,
    not_exists, not_and]

theorem terminals_graphOf_iff {roles : List Role} (ht : TextIds roles) :
    (graphOf roles).terminals.isEmpty = true ↔ ∀ r ∈ roles, ∃ b, LeadsTo roles r.id b := by
  simp only [terminals_graphOf_isEmpty_iff, IsEnd, ht.passesTo_iff, not_exists, not_and, not_forall,
    not_not]

theorem contains_reachableFrom_graphOf_iff {roles : List Role} (ht : TextIds roles)
    {start : Value} {r : Role} (hr : r ∈ roles) :
    ((graphOf roles).reachableFrom start).contains r.id = true ↔
      Relation.ReflTransGen (LeadsTo roles) start r.id := by
  have hrel : (graphOf roles).Linked = LeadsTo roles := by
    funext a b
    exact propext (mem_targets_graphOf ht)
  rw [Adjacency.contains_reachableFrom_iff, ← hrel]
  constructor
  · rintro ⟨y, hy, hsame⟩
    rw [Value.isolated_of_isText (ht.ids r hr) y hsame] at hy
    exact Adjacency.reachable_iff_reflTransGen.mp hy
  · exact fun h => ⟨r.id, Adjacency.reachable_iff_reflTransGen.mpr h, BEq.rfl⟩

end ServiceBlueprint.Workflow
