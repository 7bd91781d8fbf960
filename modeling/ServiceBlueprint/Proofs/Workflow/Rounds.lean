import ServiceBlueprint.Proofs.Workflow.Search
import ServiceBlueprint.Workflow.Graph

/-!
# The rounds of a search

A search goes round by round until its queue is empty, and nothing else bounds it. Each round takes
one node from the queue, and what it adds uses up targets that had not been seen; so there is a last
round, whatever cycles there are. What has been seen by then is each node on a walk from the start,
once.
-/

namespace ServiceBlueprint.Adjacency

/-- What a search has seen, and what of it still waits to be visited. -/
structure Searching (κ : Type) where
  seen : List κ
  queue : List κ

section

variable {κ : Type} [BEq κ]

/-- A round visits the first node of the queue: its targets join what is seen, and the queue, unless
they have been seen. With an empty queue there is no further round. -/
inductive Round (g : Adjacency κ) : Searching κ → Searching κ → Prop
  | visit (seen : List κ) (node : κ) (queue : List κ) :
    Round g ⟨seen, node :: queue⟩
      ⟨seen ++ unseen seen (g.targets node), queue ++ unseen seen (g.targets node)⟩

/-- The rounds that are left at most: one for each node that waits, and one for each target of an
edge that has not been seen. -/
def work (g : Adjacency κ) (s : Searching κ) : Nat :=
  s.queue.length + g.pending s.seen

/-- No two of the nodes seen are the same. -/
def Searching.Distinct (s : Searching κ) : Prop :=
  s.seen.Pairwise fun a b => (a == b) = false

variable [EquivBEq κ]

/-! ### One round -/

theorem Round.work_lt {g : Adjacency κ} {s t : Searching κ} (h : g.Round s t) :
    g.work t < g.work s := by
  cases h with
  | visit seen node queue =>
    have hless := g.length_add_pending_le seen node
    simp only [work, List.length_cons, List.length_append]
    omega

theorem pairwise_append_unseen {seen : List κ} (xs : List κ)
    (h : seen.Pairwise fun a b => (a == b) = false) :
    (seen ++ unseen seen xs).Pairwise fun a b => (a == b) = false := by
  induction xs generalizing seen with
  | nil => simpa [unseen] using h
  | cons x xs ih =>
    unfold unseen
    by_cases hx : seen.contains x
    · rw [if_pos hx]
      exact ih h
    · have hnew : ∀ y ∈ seen, (y == x) = false := by
        intro y hy
        by_contra hne
        have hyx : (y == x) = true := by simpa using hne
        exact hx (List.contains_iff_exists_mem_beq.mpr ⟨y, hy, BEq.symm hyx⟩)
      have hnext : (seen ++ [x]).Pairwise fun a b => (a == b) = false := by
        simpa [List.pairwise_append] using ⟨h, hnew⟩
      rw [if_neg hx]
      simpa using ih hnext

theorem Round.distinct {g : Adjacency κ} {s t : Searching κ} (h : g.Round s t)
    (hs : s.Distinct) : t.Distinct := by
  cases h with
  | visit seen node queue => exact pairwise_append_unseen (g.targets node) hs

/-! ### All rounds -/

/-- No search goes on for ever, wherever it stands. -/
theorem wellFounded_round (g : Adjacency κ) : WellFounded fun t s => g.Round s t :=
  Subrelation.wf (fun h => h.work_lt) (measure g.work).wf

theorem distinct_of_rounds {g : Adjacency κ} {s t : Searching κ}
    (h : Relation.ReflTransGen g.Round s t) (hs : s.Distinct) : t.Distinct := by
  induction h with
  | refl => exact hs
  | tail _ hround ih => exact hround.distinct ih

/-- With fuel for the work that is left the search is not cut short: it stops when its queue is
empty. -/
theorem rounds_visit (g : Adjacency κ) (fuel : Nat) {seen queue : List κ}
    (hfuel : g.work ⟨seen, queue⟩ ≤ fuel) :
    Relation.ReflTransGen g.Round ⟨seen, queue⟩ ⟨g.visit fuel seen queue, []⟩ := by
  induction fuel generalizing seen queue with
  | zero =>
    have hempty : queue = [] := List.eq_nil_of_length_eq_zero (by simp only [work] at hfuel; omega)
    rw [hempty]
    exact Relation.ReflTransGen.refl
  | succ fuel ih =>
    cases queue with
    | nil => exact Relation.ReflTransGen.refl
    | cons node queue =>
      have hround := Round.visit (g := g) seen node queue
      have hless := hround.work_lt
      exact Relation.ReflTransGen.head hround (ih (by omega))

theorem rounds_reachableFrom (g : Adjacency κ) (start : κ) :
    Relation.ReflTransGen g.Round ⟨[start], [start]⟩ ⟨g.reachableFrom start, []⟩ := by
  apply g.rounds_visit
  have hle := g.pending_le_edgeCount [start]
  simp only [work, List.length_singleton]
  omega

end

/-! ### Ids that come as they are -/

theorem exists_mem_outgoing {g : Adjacency Value} {node target : Value}
    (h : target ∈ g.targets node) : ∃ e ∈ g.outgoing, target ∈ e.2 := by
  unfold targets at h
  cases hfind : g.outgoing.find? node with
  | none => simp [hfind] at h
  | some found =>
    obtain ⟨e, he, -, rfl⟩ := Table.mem_of_find? hfind
    exact ⟨e, he, by simpa [hfind] using h⟩

theorem isKey_of_reachable {g : Adjacency Value} {start node : Value}
    (hstart : start.isKey = true)
    (htargets : ∀ e ∈ g.outgoing, ∀ target ∈ e.2, target.isKey = true)
    (h : g.Reachable start node) : node.isKey = true := by
  induction h with
  | refl => exact hstart
  | step _ htarget _ =>
    obtain ⟨e, he, hin⟩ := exists_mem_outgoing htarget
    exact htargets e he _ hin

/-- A search whose ids may be keys comes to its last round, and by then it has found, each once,
exactly the ids that zero or more edges lead to from the start. Neither the start nor a target needs
to be known to the graph. -/
theorem reachable_finds {g : Adjacency Value} {start : Value} (hstart : start.isKey = true)
    (htargets : ∀ e ∈ g.outgoing, ∀ target ∈ e.2, target.isKey = true) :
    (WellFounded fun after before => g.Round before after) ∧
      ∃ found, g.reachable start = .ok found ∧
        Relation.ReflTransGen g.Round ⟨[start], [start]⟩ ⟨found, []⟩ ∧
        (found.Pairwise fun a b => (a == b) = false) ∧
        ∀ x, found.contains x = true ↔
          ∃ y, Relation.ReflTransGen g.Linked start y ∧ (x == y) = true := by
  have hrounds := g.rounds_reachableFrom start
  have hdistinct : (Searching.mk [start] [start]).Distinct := List.pairwise_singleton _ _
  have hkeys : (g.reachableFrom start).all (·.isKey) = true := by
    rw [List.all_eq_true]
    intro x hx
    exact isKey_of_reachable hstart htargets (reachable_of_mem_reachableFrom hx)
  refine ⟨g.wellFounded_round, g.reachableFrom start, if_pos hkeys, hrounds,
    distinct_of_rounds hrounds hdistinct, ?_⟩
  intro x
  simp only [contains_reachableFrom_iff, reachable_iff_reflTransGen]

/-- A desk hands on to itself and, twice, to a clerk; the clerk hands back and on to a partner whom
the graph does not know. -/
def circuit : Adjacency Value :=
  ⟨[(.text "desk", [.text "desk", .text "clerk", .text "clerk"]),
    (.text "clerk", [.text "desk", .text "partner"]), (.text "vault", [.text "desk"])], []⟩

theorem reachable_finds_circuit :
    (Value.text "desk").isKey = true ∧
      (∀ e ∈ circuit.outgoing, ∀ target ∈ e.2, target.isKey = true) ∧
      (WellFounded fun after before => circuit.Round before after) ∧
      ∃ found, circuit.reachable (.text "desk") = .ok found ∧
        Relation.ReflTransGen circuit.Round ⟨[.text "desk"], [.text "desk"]⟩ ⟨found, []⟩ ∧
        (found.Pairwise fun a b => (a == b) = false) ∧
        ∀ x, found.contains x = true ↔
          ∃ y, Relation.ReflTransGen circuit.Linked (.text "desk") y ∧ (x == y) = true := by
  have hstart : (Value.text "desk").isKey = true := rfl
  have htargets : ∀ e ∈ circuit.outgoing, ∀ target ∈ e.2, target.isKey = true := by
    simp [circuit, Value.isKey]
  exact ⟨hstart, htargets, reachable_finds hstart htargets⟩

end ServiceBlueprint.Adjacency
