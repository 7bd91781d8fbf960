import Mathlib
import ServiceBlueprint.Markup.Document

/-!
# Links between nodes

A mapping is linked to other nodes by keys with two tags: it merges mappings, and it stands for a
scalar. While a graph is given content its nodes keep what they are, and links are only ever taken
away. A chain of nodes that stand for each other is no longer than the graph is large, unless one
of them stands for itself.
-/

namespace ServiceBlueprint.Markup

/-- The node of a number. A number of no node stands for null. -/
def nodeIn (nodes : Array Node) (id : Nat) : Node :=
  nodes[id]?.getD default

namespace Node

def entries? : Node → Option (List (Nat × Nat))
  | .mapping _ entries => some entries
  | _ => none

def entries (n : Node) : List (Nat × Nat) :=
  n.entries?.getD []

def text? : Node → Option String
  | .scalar _ text => some text
  | _ => none

/-- A node without its tag, and without its entries. -/
def outline : Node → Node
  | .scalar _ text => .scalar .null text
  | .sequence _ items => .sequence .null items
  | .mapping .. => .mapping .null []

def IsMapping (n : Node) : Prop :=
  n.outline = .mapping .null []

end Node

/-- The tags of keys that link a mapping to other nodes. -/
def IsLink (tag : Tag) : Prop :=
  tag = .merge ∨ tag = .standard

section

variable {nodes nodes' nodes'' : Array Node}

/-- The entries of a mapping whose keys have a tag. -/
def entriesUnder (nodes : Array Node) (tag : Tag) (id : Nat) : List (Nat × Nat) :=
  (nodeIn nodes id).entries.filter fun e => (nodeIn nodes e.1).tag = tag

/-- Entries that are no links. -/
def Plain (nodes : Array Node) (entries : List (Nat × Nat)) : Prop :=
  ∀ e ∈ entries, ¬ IsLink (nodeIn nodes e.1).tag

/-- A mapping has another node as its standard value. -/
def StandsFor (nodes : Array Node) (i j : Nat) : Prop :=
  ∃ e ∈ entriesUnder nodes .standard i, e.2 = j

/-! ### How nodes change -/

/-- Nodes keep what they are, lose links only, and a standard key may become text. -/
structure Evolves (nodes nodes' : Array Node) : Prop where
  size : nodes'.size = nodes.size
  outline : ∀ id, (nodeIn nodes' id).outline = (nodeIn nodes id).outline
  tag : ∀ id, (nodeIn nodes' id).tag = (nodeIn nodes id).tag ∨
    (nodeIn nodes id).tag = .standard ∧ (nodeIn nodes' id).tag = .text
  under : ∀ tag, IsLink tag → ∀ id, (entriesUnder nodes' tag id).Sublist (entriesUnder nodes tag id)

theorem Evolves.refl (nodes : Array Node) : Evolves nodes nodes :=
  ⟨rfl, fun _ => rfl, fun _ => Or.inl rfl, fun _ _ _ => List.Sublist.refl _⟩

theorem Evolves.trans (h : Evolves nodes nodes') (h' : Evolves nodes' nodes'') :
    Evolves nodes nodes'' where
  size := h'.size.trans h.size
  outline id := (h'.outline id).trans (h.outline id)
  tag id := by
    rcases h'.tag id with hsame | ⟨hstandard, htext⟩
    · rw [hsame]
      exact h.tag id
    · right
      rcases h.tag id with hsame | ⟨-, htext'⟩
      · exact ⟨hsame ▸ hstandard, htext⟩
      · cases hstandard.symm.trans htext'
  under tag htag id := (h'.under tag htag id).trans (h.under tag htag id)

theorem Evolves.plain (h : Evolves nodes nodes') {entries : List (Nat × Nat)}
    (hplain : Plain nodes entries) : Plain nodes' entries := by
  intro e he
  rcases h.tag e.1 with hsame | ⟨hstandard, -⟩
  · rw [hsame]
    exact hplain e he
  · exact absurd (Or.inr hstandard) (hplain e he)

theorem plain_entries {id : Nat} (hmerge : entriesUnder nodes .merge id = [])
    (hstandard : ∀ e ∈ (nodeIn nodes id).entries, (nodeIn nodes e.1).tag ≠ .standard) :
    Plain nodes (nodeIn nodes id).entries := by
  rintro e he (htag | htag)
  · exact List.filter_eq_nil_iff.mp hmerge e he (decide_eq_true htag)
  · exact hstandard e he htag

theorem Plain.append {entries entries' : List (Nat × Nat)} (h : Plain nodes entries)
    (h' : Plain nodes entries') : Plain nodes (entries ++ entries') :=
  List.forall_mem_append.mpr ⟨h, h'⟩

theorem Node.tag_withTag (tag : Tag) (n : Node) : (n.withTag tag).tag = tag := by
  cases n <;> rfl

theorem Node.outline_withTag (tag : Tag) (n : Node) : (n.withTag tag).outline = n.outline := by
  cases n <;> rfl

theorem Node.entries_withTag (tag : Tag) (n : Node) : (n.withTag tag).entries = n.entries := by
  cases n <;> rfl

theorem Node.text?_outline (n : Node) : n.outline.text? = n.text? := by
  cases n <;> rfl

theorem Evolves.text? (h : Evolves nodes nodes') (id : Nat) :
    (nodeIn nodes' id).text? = (nodeIn nodes id).text? := by
  rw [← Node.text?_outline, h.outline, Node.text?_outline]

theorem Evolves.isMapping_iff (h : Evolves nodes nodes') {id : Nat} :
    (nodeIn nodes' id).IsMapping ↔ (nodeIn nodes id).IsMapping := by
  rw [Node.IsMapping, h.outline, Node.IsMapping]

theorem Node.isMapping_iff {n : Node} : n.IsMapping ↔ n.entries?.isSome := by
  cases n <;> simp [IsMapping, outline, entries?]

theorem nodeIn_setIfInBounds (id : Nat) (n : Node) (j : Nat) :
    nodeIn (nodes.setIfInBounds id n) j =
      if id = j ∧ j < nodes.size then n else nodeIn nodes j := by
  unfold nodeIn
  rw [Array.getElem?_setIfInBounds]
  split
  next h =>
    subst h
    split
    next hlt => rw [if_pos ⟨rfl, hlt⟩, Option.getD_some]
    next hlt =>
      rw [if_neg fun hboth => hlt hboth.2, Array.getElem?_eq_none (Nat.le_of_not_lt hlt)]
  next h => rw [if_neg fun hboth => h hboth.1]

theorem lt_size_of_isMapping {id : Nat} (h : (nodeIn nodes id).IsMapping) : id < nodes.size := by
  by_contra hlt
  rw [nodeIn, Array.getElem?_eq_none (Nat.le_of_not_lt hlt)] at h
  cases h

theorem isMapping_of_mem_entries {id : Nat} {e : Nat × Nat} (h : e ∈ (nodeIn nodes id).entries) :
    (nodeIn nodes id).IsMapping := by
  cases hn : nodeIn nodes id with
  | mapping tag entries => rfl
  | scalar tag text =>
    rw [hn] at h
    exact absurd h List.not_mem_nil
  | sequence tag items =>
    rw [hn] at h
    exact absurd h List.not_mem_nil

theorem tag_setEntries (id : Nat) (entries : List (Nat × Nat)) (j : Nat) :
    (nodeIn (nodes.setIfInBounds id (.mapping (nodeIn nodes id).tag entries)) j).tag =
      (nodeIn nodes j).tag := by
  rw [nodeIn_setIfInBounds]
  split
  next hj => rw [← hj.1]; rfl
  next => rfl

theorem entriesUnder_setEntries {id : Nat} (hid : (nodeIn nodes id).IsMapping) (tag : Tag)
    (entries : List (Nat × Nat)) :
    entriesUnder (nodes.setIfInBounds id (.mapping (nodeIn nodes id).tag entries)) tag id =
      entries.filter fun e => (nodeIn nodes e.1).tag = tag := by
  simp only [entriesUnder, tag_setEntries]
  rw [nodeIn_setIfInBounds, if_pos ⟨rfl, lt_size_of_isMapping hid⟩]
  rfl

/-- Other entries of a mapping, with no link that was not there. -/
theorem Evolves.setEntries {id : Nat} (hid : (nodeIn nodes id).IsMapping)
    {entries : List (Nat × Nat)}
    (h : ∀ tag, IsLink tag → (entries.filter fun e => (nodeIn nodes e.1).tag = tag).Sublist
      (entriesUnder nodes tag id)) :
    Evolves nodes (nodes.setIfInBounds id (.mapping (nodeIn nodes id).tag entries)) := by
  refine ⟨Array.size_setIfInBounds, fun j => ?_, fun j => Or.inl (tag_setEntries id entries j),
    fun tag hlink j => ?_⟩
  · rw [nodeIn_setIfInBounds]
    split
    next hj => rw [← hj.1, hid]; rfl
    next => rfl
  · by_cases hj : id = j
    · subst hj
      rw [entriesUnder_setEntries hid]
      exact h tag hlink
    · simp only [entriesUnder, tag_setEntries]
      rw [nodeIn_setIfInBounds, if_neg fun hboth => hj hboth.1]

theorem entries_setEntries {id : Nat} (hid : (nodeIn nodes id).IsMapping)
    (entries : List (Nat × Nat)) :
    (nodeIn (nodes.setIfInBounds id (.mapping (nodeIn nodes id).tag entries)) id).entries =
      entries := by
  rw [nodeIn_setIfInBounds, if_pos ⟨rfl, lt_size_of_isMapping hid⟩]
  rfl

theorem Evolves.setPlain {id : Nat} (hid : (nodeIn nodes id).IsMapping)
    {entries : List (Nat × Nat)} (hplain : Plain nodes entries) :
    Evolves nodes (nodes.setIfInBounds id (.mapping (nodeIn nodes id).tag entries)) := by
  refine Evolves.setEntries hid fun tag hlink => ?_
  rw [List.filter_eq_nil_iff.mpr]
  · exact List.nil_sublist _
  · intro e he htag
    rw [decide_eq_true_iff] at htag
    exact hplain e he (htag ▸ hlink)

theorem entries_retag (key : Nat) (tag : Tag) (j : Nat) :
    (nodeIn (nodes.setIfInBounds key ((nodeIn nodes key).withTag tag)) j).entries =
      (nodeIn nodes j).entries := by
  rw [nodeIn_setIfInBounds]
  split
  next hj => rw [← hj.1, Node.entries_withTag]
  next => rfl

/-- A standard key that becomes text. -/
theorem Evolves.retag {key : Nat} (h : (nodeIn nodes key).tag = .standard) :
    Evolves nodes (nodes.setIfInBounds key ((nodeIn nodes key).withTag .text)) := by
  have htag (j : Nat) :
      (nodeIn (nodes.setIfInBounds key ((nodeIn nodes key).withTag .text)) j).tag =
          (nodeIn nodes j).tag ∨
        (nodeIn nodes j).tag = .standard ∧
          (nodeIn (nodes.setIfInBounds key ((nodeIn nodes key).withTag .text)) j).tag = .text := by
    rw [nodeIn_setIfInBounds]
    split
    next hj =>
      rw [← hj.1]
      exact Or.inr ⟨h, Node.tag_withTag _ _⟩
    next => exact Or.inl rfl
  refine ⟨Array.size_setIfInBounds, fun j => ?_, htag, fun tag hlink j => ?_⟩
  · rw [nodeIn_setIfInBounds]
    split
    next hj => rw [← hj.1, Node.outline_withTag]
    next => rfl
  · rw [entriesUnder, entries_retag]
    apply List.monotone_filter_right
    intro e he
    rw [decide_eq_true_iff] at he ⊢
    rcases htag e.1 with hsame | ⟨-, htext⟩
    · rwa [← hsame]
    · rw [he] at htext
      rcases hlink with rfl | rfl <;> cases htext

theorem tag_retag {key : Nat} (h : (nodeIn nodes key).tag = .standard) :
    (nodeIn (nodes.setIfInBounds key ((nodeIn nodes key).withTag .text)) key).tag = .text := by
  have hlt : key < nodes.size := by
    by_contra hlt
    rw [nodeIn, Array.getElem?_eq_none (Nat.le_of_not_lt hlt)] at h
    cases h
  rw [nodeIn_setIfInBounds, if_pos ⟨rfl, hlt⟩, Node.tag_withTag]

theorem Evolves.tag_ne_standard (h : Evolves nodes nodes') {id : Nat}
    (hid : (nodeIn nodes id).tag ≠ .standard) : (nodeIn nodes' id).tag ≠ .standard := by
  rcases h.tag id with hsame | ⟨hstandard, -⟩
  · rwa [hsame]
  · exact absurd hstandard hid

/-! ### How many merges are left -/

/-- The size of all nodes together. -/
def weight (nodes : Array Node) : Nat :=
  nodes.toList.foldl (fun total n => total + n.size) 0

theorem weight_eq (nodes : Array Node) :
    weight nodes = ((List.range nodes.size).map fun i => (nodeIn nodes i).size).sum := by
  have hlist : (List.range nodes.size).map (fun i => (nodeIn nodes i).size) =
      nodes.toList.map Node.size := by
    apply List.ext_getElem
    · simp
    · intro i hi hi'
      rw [List.length_map, Array.length_toList] at hi'
      simp [nodeIn, Array.getElem?_eq_getElem hi']
  rw [hlist, weight, List.sum_eq_foldl, List.foldl_map]

/-- The number of entries under merge keys. -/
def mergesLeft (nodes : Array Node) : Nat :=
  ((List.range nodes.size).map fun i => (entriesUnder nodes .merge i).length).sum

theorem length_entriesUnder_lt (tag : Tag) (id : Nat) :
    (entriesUnder nodes tag id).length < (nodeIn nodes id).size := by
  refine (List.length_filter_le _ _).trans_lt ?_
  cases nodeIn nodes id with
  | mapping t entries => exact Nat.lt_succ_self _
  | scalar t text => exact Nat.zero_lt_one
  | sequence t items => exact Nat.succ_pos _

theorem mergesLeft_add_size_le (nodes : Array Node) :
    mergesLeft nodes + nodes.size ≤ weight nodes := by
  have hsum : mergesLeft nodes + nodes.size =
      ((List.range nodes.size).map fun i => (entriesUnder nodes .merge i).length + 1).sum := by
    simp [mergesLeft, List.sum_map_add]
  rw [hsum, weight_eq]
  exact List.sum_le_sum fun i _ => length_entriesUnder_lt .merge i

theorem Evolves.mergesLeft_le (h : Evolves nodes nodes') :
    mergesLeft nodes' ≤ mergesLeft nodes := by
  rw [mergesLeft, mergesLeft, h.size]
  exact List.sum_le_sum fun i _ => (h.under .merge (Or.inl rfl) i).length_le

theorem Evolves.mergesLeft_lt (h : Evolves nodes nodes') (id : Nat)
    (hless : (entriesUnder nodes' .merge id).length < (entriesUnder nodes .merge id).length) :
    mergesLeft nodes' < mergesLeft nodes := by
  obtain ⟨e, he⟩ := List.exists_mem_of_length_pos (Nat.zero_lt_of_lt hless)
  have hid := lt_size_of_isMapping (isMapping_of_mem_entries (List.mem_of_mem_filter he))
  rw [mergesLeft, mergesLeft, h.size]
  exact List.sum_lt_sum _ _ (fun i _ => (h.under .merge (Or.inl rfl) i).length_le)
    ⟨id, List.mem_range.mpr hid, hless⟩

/-- Without its first entry under a merge key, a mapping has one merge less. -/
theorem Evolves.eraseMerge {id i : Nat} {entries : List (Nat × Nat)}
    (hentries : (nodeIn nodes id).entries = entries)
    (h : (entries.map fun e => (nodeIn nodes e.1).tag).findIdx? (· = .merge) = some i) :
    i < entries.length ∧
      Evolves nodes (nodes.setIfInBounds id
        (.mapping (nodeIn nodes id).tag (entries.eraseIdx i))) ∧
      mergesLeft (nodes.setIfInBounds id
        (.mapping (nodeIn nodes id).tag (entries.eraseIdx i))) < mergesLeft nodes := by
  obtain ⟨hlt, hmerge, -⟩ := List.findIdx?_eq_some_iff_getElem.mp h
  rw [List.length_map] at hlt
  rw [List.getElem_map, decide_eq_true_iff] at hmerge
  subst hentries
  have hid := isMapping_of_mem_entries (List.getElem_mem hlt)
  have hevolves : Evolves nodes (nodes.setIfInBounds id
      (.mapping (nodeIn nodes id).tag ((nodeIn nodes id).entries.eraseIdx i))) :=
    Evolves.setEntries hid fun tag _ => (List.eraseIdx_sublist _ i).filter _
  refine ⟨hlt, hevolves, hevolves.mergesLeft_lt id ?_⟩
  rw [entriesUnder_setEntries hid, entriesUnder]
  conv_rhs => rw [← List.take_append_drop i (nodeIn nodes id).entries,
    List.drop_eq_getElem_cons hlt]
  rw [List.eraseIdx_eq_take_drop_succ, List.filter_append, List.filter_append, List.filter_cons,
    if_pos (decide_eq_true hmerge), List.length_append, List.length_append, List.length_cons]
  omega

/-! ### Chains of nodes that stand for each other -/

theorem StandsFor.lt_size {i j : Nat} (h : StandsFor nodes i j) : i < nodes.size := by
  obtain ⟨e, he, -⟩ := h
  exact lt_size_of_isMapping (isMapping_of_mem_entries (List.mem_of_mem_filter he))

/-- A chain of a relation without cycles, the last node first, never comes back to a node. -/
theorem nodup_of_isChain {R : Nat → Nat → Prop} (hacyclic : ∀ i, ¬ Relation.TransGen R i i)
    {path : List Nat} (h : path.IsChain fun a b => R b a) : path.Nodup := by
  have hpairs : path.Pairwise fun a b => Relation.TransGen R b a := by
    have htrans : path.IsChain fun a b => Relation.TransGen R b a :=
      h.imp fun _ _ hab => Relation.TransGen.single hab
    have : Trans (fun a b => Relation.TransGen R b a) (fun a b => Relation.TransGen R b a)
        (fun a b => Relation.TransGen R b a) := ⟨fun hab hbc => hbc.trans hab⟩
    exact List.isChain_iff_pairwise.mp htrans
  refine hpairs.imp ?_
  rintro a b hab rfl
  exact hacyclic a hab

/-- A chain that is longer than the graph is large comes back to a node. -/
theorem exists_cycle_of_isChain {id : Nat} {path : List Nat}
    (h : (id :: path).IsChain fun a b => StandsFor nodes b a) (hlong : nodes.size < path.length) :
    ∃ i, Relation.TransGen (StandsFor nodes) i i := by
  by_contra hacyclic
  have hnodup := (nodup_of_isChain (not_exists.mp hacyclic) h).of_cons
  have hlt : ∀ i ∈ path, i < nodes.size := by
    clear hacyclic hlong hnodup
    induction path generalizing id with
    | nil => exact fun i hi => absurd hi List.not_mem_nil
    | cons next path ih =>
      obtain ⟨hlink, hrest⟩ := List.isChain_cons_cons.mp h
      exact List.forall_mem_cons.mpr ⟨hlink.lt_size, ih hrest⟩
  have hsub : path.Subperm (List.range nodes.size) :=
    hnodup.subperm fun i hi => List.mem_range.mpr (hlt i hi)
  have hle := hsub.length_le
  rw [List.length_range] at hle
  omega

end

end ServiceBlueprint.Markup
