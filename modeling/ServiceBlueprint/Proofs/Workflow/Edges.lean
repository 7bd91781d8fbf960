import ServiceBlueprint.Proofs.Table
import ServiceBlueprint.Workflow.Adjacency

/-!
# What nodes and edges do to an adjacency

Targets and sources are kept in two tables that are written independently. What they hold is read
off the nodes and edges that were entered: every node and every neighbour once, in the order in
which it first came, and sources only at nodes that were entered as such. Each edge preserves
this, so it holds after any run of additions. All else that is said of the two sides follows from
it.
-/

namespace ServiceBlueprint.Adjacency

variable {κ : Type} [BEq κ]

def addNodes (g : Adjacency κ) (nodes : List κ) : Adjacency κ :=
  nodes.foldl addNode g

def addEdges (g : Adjacency κ) (edges : List (κ × κ)) : Adjacency κ :=
  edges.foldl (fun g e => g.addEdge e.1 e.2) g

/-- The targets of the edges from a node, in the order of the edges. -/
def targetsIn (edges : List (κ × κ)) (a : κ) : List κ :=
  (edges.filter (·.1 == a)).map (·.2)

def sourcesIn (edges : List (κ × κ)) (b : κ) : List κ :=
  (edges.filter (·.2 == b)).map (·.1)

/-- What an adjacency holds once some nodes and then some edges were entered. -/
structure Records (g : Adjacency κ) (nodes : List κ) (edges : List (κ × κ)) : Prop where
  outgoing_keys : g.outgoing.keys = (nodes ++ edges.map (·.1)).eraseDups
  incoming_keys : g.incoming.keys = nodes.eraseDups
  targets : ∀ a, g.targets a = (targetsIn edges a).eraseDups
  sources : ∀ b, nodes.contains b = true → g.sources b = (sourcesIn edges b).eraseDups

/-! ### Entering nodes -/

theorem outgoing_addNodes (g : Adjacency κ) (nodes : List κ) :
    (g.addNodes nodes).outgoing = nodes.foldl (fun t a => t.insert a []) g.outgoing := by
  induction nodes generalizing g with
  | nil => rfl
  | cons node nodes ih => exact ih _

theorem incoming_addNodes (g : Adjacency κ) (nodes : List κ) :
    (g.addNodes nodes).incoming = nodes.foldl (fun t a => t.insert a []) g.incoming := by
  induction nodes generalizing g with
  | nil => rfl
  | cons node nodes ih => exact ih _

variable [EquivBEq κ]

theorem find?_foldl_insert {ν : Type} (t : Table κ ν) (v : ν) (nodes : List κ) (a : κ) :
    (nodes.foldl (fun t a => t.insert a v) t).find? a =
      if nodes.contains a then some v else t.find? a := by
  induction nodes generalizing t with
  | nil => rfl
  | cons node nodes ih =>
    rw [List.foldl_cons, ih, List.contains_cons, Table.find?_insert, BEq.comm]
    by_cases hin : nodes.contains a
    · rw [if_pos hin, hin, Bool.or_true, if_pos rfl]
    · rw [if_neg hin, Bool.eq_false_iff.mpr hin, Bool.or_false]

theorem keys_foldl_insert {ν : Type} (t : Table κ ν) (v : ν) (nodes : List κ) :
    (nodes.foldl (fun t a => t.insert a v) t).keys = nodes.foldl addUnlessThere t.keys := by
  induction nodes generalizing t with
  | nil => rfl
  | cons node nodes ih => rw [List.foldl_cons, ih, Table.keys_insert, List.foldl_cons]

theorem records_nodes (nodes : List κ) : (empty.addNodes nodes).Records nodes [] where
  outgoing_keys := by
    rw [outgoing_addNodes, keys_foldl_insert, List.map_nil, List.append_nil, eraseDups_eq_foldl]
    rfl
  incoming_keys := by
    rw [incoming_addNodes, keys_foldl_insert, eraseDups_eq_foldl]
    rfl
  targets a := by
    rw [Adjacency.targets, outgoing_addNodes, find?_foldl_insert]
    split <;> rfl
  sources b _ := by
    rw [Adjacency.sources, incoming_addNodes, find?_foldl_insert]
    split <;> rfl

/-! ### Entering edges -/

theorem targets_addEdge (g : Adjacency κ) (s t a : κ) :
    (g.addEdge s t).targets a =
      if s == a then addUnlessThere (g.targets a) t else g.targets a := by
  unfold targets addEdge
  rw [Table.find?_modify, Table.find?_ensure]
  by_cases h : s == a
  · rw [if_pos h, if_pos h, if_pos h]
    cases g.outgoing.find? a <;> rfl
  · rw [if_neg h, if_neg h, if_neg h, Option.or_none]

theorem sources_addEdge (g : Adjacency κ) (s t : κ) {a : κ} (ha : g.incoming.hasKey a = true) :
    (g.addEdge s t).sources a =
      if t == a then addUnlessThere (g.sources a) s else g.sources a := by
  obtain ⟨v, hv⟩ := Option.isSome_iff_exists.mp ha
  unfold sources addEdge
  rw [Table.find?_modify, hv]
  split <;> rfl

omit [EquivBEq κ] in
theorem targetsIn_append_singleton (edges : List (κ × κ)) (s t a : κ) :
    targetsIn (edges ++ [(s, t)]) a =
      targetsIn edges a ++ if s == a then [t] else [] := by
  unfold targetsIn
  rw [List.filter_append, List.map_append, List.filter_cons, List.filter_nil]
  split <;> rfl

omit [EquivBEq κ] in
theorem sourcesIn_append_singleton (edges : List (κ × κ)) (s t b : κ) :
    sourcesIn (edges ++ [(s, t)]) b =
      sourcesIn edges b ++ if t == b then [s] else [] := by
  unfold sourcesIn
  rw [List.filter_append, List.map_append, List.filter_cons, List.filter_nil]
  split <;> rfl

namespace Records

variable {g : Adjacency κ} {nodes : List κ} {edges : List (κ × κ)}

theorem hasKey_incoming (h : g.Records nodes edges) (b : κ) :
    g.incoming.hasKey b = nodes.contains b := by
  rw [Table.hasKey_eq_contains_keys, h.incoming_keys, Bool.eq_iff_iff, contains_eraseDups]

/-- One edge is kept on both sides, or on the side of targets alone. -/
theorem addEdge (h : g.Records nodes edges) (s t : κ) :
    (g.addEdge s t).Records nodes (edges ++ [(s, t)]) where
  outgoing_keys := by
    have hkeys : (g.addEdge s t).outgoing.keys = addUnlessThere g.outgoing.keys s := by
      unfold Adjacency.addEdge
      rw [Table.keys_modify, Table.keys_ensure]
    rw [hkeys, h.outgoing_keys, List.map_append, ← List.append_assoc]
    exact (eraseDups_append_singleton _ _).symm
  incoming_keys := by
    unfold Adjacency.addEdge
    rw [Table.keys_modify, h.incoming_keys]
  targets a := by
    rw [targets_addEdge, h.targets, targetsIn_append_singleton]
    split
    · exact (eraseDups_append_singleton _ _).symm
    · rw [List.append_nil]
  sources b hb := by
    rw [sources_addEdge g s t ((h.hasKey_incoming b).trans hb), h.sources b hb,
      sourcesIn_append_singleton]
    split
    · exact (eraseDups_append_singleton _ _).symm
    · rw [List.append_nil]

theorem addEdges (h : g.Records nodes edges) (more : List (κ × κ)) :
    (g.addEdges more).Records nodes (edges ++ more) := by
  induction more generalizing g edges with
  | nil => rwa [List.append_nil]
  | cons e more ih =>
    have hrest := ih (h.addEdge e.1 e.2)
    rwa [List.append_assoc] at hrest

/-! ### Neighbours -/

theorem targets_of_mem (h : g.Records nodes edges) {e : κ × List κ} (he : e ∈ g.outgoing) :
    g.targets e.1 = e.2 := by
  rw [Adjacency.targets, Table.find?_of_mem h.outgoing_keys he]
  rfl

theorem sources_of_mem (h : g.Records nodes edges) {e : κ × List κ} (he : e ∈ g.incoming) :
    g.sources e.1 = e.2 := by
  rw [Adjacency.sources, Table.find?_of_mem h.incoming_keys he]
  rfl

/-- A node that is not known has no sources. -/
theorem sources_eq_nil (h : g.Records nodes edges) {b : κ} (hb : nodes.contains b = false) :
    g.sources b = [] := by
  have hnone : g.incoming.find? b = none := by
    rw [← Option.not_isSome_iff_eq_none, Bool.not_eq_true]
    exact (h.hasKey_incoming b).trans hb
  rw [Adjacency.sources, hnone]
  rfl

theorem targets_distinct (h : g.Records nodes edges) (a : κ) :
    (g.targets a).Pairwise fun x y => (x == y) = false := by
  rw [h.targets]
  exact pairwise_eraseDups _

theorem sources_distinct (h : g.Records nodes edges) (b : κ) :
    (g.sources b).Pairwise fun x y => (x == y) = false := by
  by_cases hb : nodes.contains b
  · rw [h.sources b hb]
    exact pairwise_eraseDups _
  · rw [h.sources_eq_nil (Bool.eq_false_iff.mpr hb)]
    exact List.Pairwise.nil

theorem contains_targets_iff (h : g.Records nodes edges) {a b : κ} :
    (g.targets a).contains b = true ↔ ∃ e ∈ edges, (e.1 == a) = true ∧ (e.2 == b) = true := by
  rw [h.targets, contains_eraseDups, List.contains_iff_exists_mem_beq, targetsIn]
  simp only [List.mem_map, List.mem_filter, BEq.comm (a := b)]
  constructor
  · rintro ⟨_, ⟨e, ⟨he, ha⟩, rfl⟩, hb⟩
    exact ⟨e, he, ha, hb⟩
  · rintro ⟨e, he, ha, hb⟩
    exact ⟨e.2, ⟨e, ⟨he, ha⟩, rfl⟩, hb⟩

theorem contains_sources_iff (h : g.Records nodes edges) {a b : κ} :
    (g.sources b).contains a = true ↔
      nodes.contains b = true ∧ ∃ e ∈ edges, (e.1 == a) = true ∧ (e.2 == b) = true := by
  by_cases hb : nodes.contains b
  · rw [h.sources b hb, contains_eraseDups, List.contains_iff_exists_mem_beq, sourcesIn,
      and_iff_right hb]
    simp only [List.mem_map, List.mem_filter, BEq.comm (a := a)]
    constructor
    · rintro ⟨_, ⟨e, ⟨he, hb⟩, rfl⟩, ha⟩
      exact ⟨e, he, ha, hb⟩
    · rintro ⟨e, he, ha, hb⟩
      exact ⟨e.1, ⟨e, ⟨he, hb⟩, rfl⟩, ha⟩
  · rw [h.sources_eq_nil (Bool.eq_false_iff.mpr hb)]
    simp [hb]

/-- The sources are the inverse of the targets, at the nodes that are known. -/
theorem inverse (h : g.Records nodes edges) {a b : κ} :
    (g.sources b).contains a = true ↔
      nodes.contains b = true ∧ (g.targets a).contains b = true := by
  rw [h.contains_sources_iff, h.contains_targets_iff]

/-! ### Whether there are edges and ends -/

theorem hasKey_outgoing (h : g.Records nodes edges) (a : κ) :
    g.outgoing.hasKey a = (nodes ++ edges.map (·.1)).contains a := by
  rw [Table.hasKey_eq_contains_keys, h.outgoing_keys, Bool.eq_iff_iff, contains_eraseDups]

/-- A list of targets that is found is kept in some entry. -/
theorem exists_mem_outgoing (h : g.Records nodes edges) {a : κ}
    (ha : (nodes ++ edges.map (·.1)).contains a = true) : ∃ e ∈ g.outgoing, e.2 = g.targets a := by
  rw [← h.hasKey_outgoing] at ha
  obtain ⟨ts, hfind⟩ := Option.isSome_iff_exists.mp ha
  obtain ⟨e, he, -, hts⟩ := Table.mem_of_find? hfind
  refine ⟨e, he, ?_⟩
  rw [hts, Adjacency.targets, hfind]
  rfl

theorem targets_ne_nil (h : g.Records nodes edges) {e : κ × κ} (he : e ∈ edges) :
    g.targets e.1 ≠ [] := by
  rw [ne_eq, eq_nil_iff_contains]
  exact fun hnone => hnone e.2 (h.contains_targets_iff.mpr ⟨e, he, BEq.rfl, BEq.rfl⟩)

theorem hasEdges_eq (h : g.Records nodes edges) : g.hasEdges = !edges.isEmpty := by
  have hsome : g.hasEdges = true ↔ ∃ e ∈ g.outgoing, e.2 ≠ [] := by simp [hasEdges]
  rw [Bool.eq_iff_iff, hsome, Bool.not_eq_true', List.isEmpty_eq_false_iff]
  constructor
  · rintro ⟨e, he, hne⟩ rfl
    rw [← h.targets_of_mem he, h.targets] at hne
    exact hne rfl
  · intro hne
    obtain ⟨e, he⟩ := List.exists_mem_of_ne_nil edges hne
    have hkey : (nodes ++ edges.map (·.1)).contains e.1 = true := by
      rw [List.contains_iff_exists_mem_beq]
      exact ⟨e.1, List.mem_append_right _ (List.mem_map_of_mem he), BEq.rfl⟩
    obtain ⟨kept, hkept, hts⟩ := h.exists_mem_outgoing hkey
    exact ⟨kept, hkept, hts ▸ h.targets_ne_nil he⟩

/-- There is no terminal exactly if every node has targets: the source of an edge has some. -/
theorem terminals_isEmpty_iff (h : g.Records nodes edges) :
    g.terminals.isEmpty = true ↔ ∀ a ∈ nodes, g.targets a ≠ [] := by
  have hall : g.terminals.isEmpty = true ↔ ∀ e ∈ g.outgoing, e.2 ≠ [] := by
    simp [terminals, Table.keys, List.filter_eq_nil_iff]
  rw [hall]
  constructor
  · intro hkept a ha
    have hkey : (nodes ++ edges.map (·.1)).contains a = true := by
      rw [List.contains_iff_exists_mem_beq]
      exact ⟨a, List.mem_append_left _ ha, BEq.rfl⟩
    obtain ⟨e, he, hts⟩ := h.exists_mem_outgoing hkey
    rw [← hts]
    exact hkept e he
  · intro hnodes e he
    have hkey : e.1 ∈ nodes ++ edges.map (·.1) := by
      apply mem_of_mem_eraseDups
      rw [← h.outgoing_keys]
      exact List.mem_map_of_mem he
    rw [← h.targets_of_mem he]
    rcases List.mem_append.mp hkey with hnode | hsource
    · exact hnodes e.1 hnode
    · obtain ⟨e', he', hsame⟩ := List.mem_map.mp hsource
      rw [← hsame]
      exact h.targets_ne_nil he'

end Records

end ServiceBlueprint.Adjacency
