import ServiceBlueprint.Proofs.Value.Keys
import ServiceBlueprint.Proofs.Workflow.Routes

/-!
# The two sides of a role graph

After a role graph is built, edges may be added between any ids, those of no role and those that
may not be keys included. Sources are kept for the ids of roles only, and targets for every id
that passes on. Whatever is added, neighbours stay distinct and in the order in which they first
came, and at the ids of roles the one side is the inverse of the other.
-/

namespace ServiceBlueprint

namespace Adjacency

/-- Adds edges between ids as they come. A call that is refused does not end the run. -/
def connectAll (g : Adjacency Value) (calls : List (Value × Value)) : Adjacency Value :=
  calls.foldl (fun g c => (g.connect c.1 c.2).1) g

/-- Only a source that may not be a key keeps an edge from being written. -/
theorem connectAll_eq (g : Adjacency Value) (calls : List (Value × Value)) :
    g.connectAll calls = g.addEdges (calls.filter (·.1.isKey)) := by
  induction calls generalizing g with
  | nil => rfl
  | cons c calls ih =>
    change (g.connect c.1 c.2).1.connectAll calls = _
    rw [ih, List.filter_cons, connect]
    cases c.1.isKey <;> rfl

end Adjacency

namespace Workflow

open Adjacency

variable {roles : List Role} {calls : List (Value × Value)}

/-- The edges that are written by building the graph of the roles and by the calls after it. -/
def written (roles : List Role) (calls : List (Value × Value)) : List (Value × Value) :=
  edges roles ++ calls.filter (·.1.isKey)

theorem contains_ids_iff {b : Value} :
    (roles.map (·.id)).contains b = true ↔ IsRoleId roles b := by
  rw [List.contains_iff_exists_mem_beq, IsRoleId]
  simp [BEq.comm (a := b)]

theorem records_connectAll (roles : List Role) (calls : List (Value × Value)) :
    ((graphOf roles).connectAll calls).Records (roles.map (·.id)) (written roles calls) := by
  rw [connectAll_eq]
  exact (records_graphOf roles).addEdges _

/-- An edge from an id that may be a key is written by a transition or by a call. -/
theorem exists_written_iff {a b : Value} (ha : a.isKey = true) :
    (∃ e ∈ written roles calls, (e.1 == a) = true ∧ (e.2 == b) = true) ↔
      PassesTo roles a b ∨ ∃ c ∈ calls, (c.1 == a) = true ∧ (c.2 == b) = true := by
  have hkey : ∀ c : Value × Value, (c.1 == a) = true → c.1.isKey = true :=
    fun c hc => (Value.isKey_congr hc).trans ha
  rw [passesTo_iff_exists_edge, written]
  simp only [List.mem_append, List.mem_filter, or_and_right, exists_or]
  apply or_congr_right
  constructor
  · rintro ⟨c, ⟨hc, -⟩, hpair⟩
    exact ⟨c, hc, hpair⟩
  · rintro ⟨c, hc, hpair⟩
    exact ⟨c, ⟨hc, hkey c hpair.1⟩, hpair⟩

/-- What holds of the two sides of a role graph after any calls. -/
structure Mirrored (roles : List Role) (calls : List (Value × Value)) (g : Adjacency Value) :
    Prop where
  known : ∀ b, g.incoming.hasKey b = true ↔ IsRoleId roles b
  targets_kept : ∀ e ∈ g.outgoing, g.targets e.1 = e.2
  sources_kept : ∀ e ∈ g.incoming, g.sources e.1 = e.2
  targets_distinct : ∀ a, (g.targets a).Pairwise fun x y => (x == y) = false
  sources_distinct : ∀ b, (g.sources b).Pairwise fun x y => (x == y) = false
  targets_ordered : ∀ a, g.targets a = (targetsIn (written roles calls) a).eraseDups
  sources_ordered : ∀ b, IsRoleId roles b →
    g.sources b = (sourcesIn (written roles calls) b).eraseDups
  targets_iff : ∀ a, a.isKey = true → ∀ b, (g.targets a).contains b = true ↔
    PassesTo roles a b ∨ ∃ c ∈ calls, (c.1 == a) = true ∧ (c.2 == b) = true
  inverse : ∀ a b, (g.sources b).contains a = true ↔
    IsRoleId roles b ∧ (g.targets a).contains b = true

/-- Whatever calls follow, sources are kept for the ids of the roles and no others, neighbours are
distinct and in the order in which they first came, targets are those of transitions and calls, and
sources are the inverse of targets. -/
theorem graph_mirrored (hk : Keyed roles) (calls : List (Value × Value)) :
    ∃ g, graph roles = .ok g ∧ Mirrored roles calls (g.connectAll calls) := by
  refine ⟨graphOf roles, graph_eq_ok_iff.mpr ⟨hk, rfl⟩, ?_⟩
  have h := records_connectAll roles calls
  constructor
  · intro b
    rw [h.hasKey_incoming, contains_ids_iff]
  · exact fun e he => h.targets_of_mem he
  · exact fun e he => h.sources_of_mem he
  · exact h.targets_distinct
  · exact h.sources_distinct
  · exact h.targets
  · exact fun b hb => h.sources b (contains_ids_iff.mpr hb)
  · intro a ha b
    rw [h.contains_targets_iff, exists_written_iff ha]
  · intro a b
    rw [h.inverse, contains_ids_iff]

/-- Two roles of one id pass to a clerk, and one of them to a role that is gone. -/
def sharedDesk : List Role :=
  [⟨.text "desk", .text "Front", .bot, true,
      [⟨"1", .passed, [⟨"1", .text "clerk", .null, 0⟩]⟩], []⟩,
    ⟨.text "desk", .text "Back", .bot, false, [⟨"2", .returned, [⟨"2", .text "clerk", .null, 0⟩,
      ⟨"3", .text "gone", .null, 1⟩]⟩], []⟩,
    ⟨.text "clerk", .text "Clerk", .bot, false,
      [⟨"3", .pending, [⟨"4", .text "desk", .null, 0⟩]⟩], []⟩]

/-- Calls about ids that no role has, and about ids that may not be keys. -/
def strayCalls : List (Value × Value) :=
  [(.text "gone", .text "clerk"), (.list [], .text "desk"), (.text "clerk", .list []),
    (.text "clerk", .text "clerk"), (.text "gone", .text "clerk")]

theorem graph_mirrored_sharedDesk :
    Keyed sharedDesk ∧ ∃ g, graph sharedDesk = .ok g ∧
      Mirrored sharedDesk strayCalls (g.connectAll strayCalls) ∧
      (g.connectAll strayCalls).targets (.text "desk") = [.text "clerk", .text "gone"] ∧
      (g.connectAll strayCalls).sources (.text "clerk") =
        [.text "desk", .text "gone", .text "clerk"] := by
  have hk : Keyed sharedDesk := by
    unfold Keyed
    decide
  obtain ⟨g, hg, hsides⟩ := graph_mirrored hk strayCalls
  obtain ⟨-, rfl⟩ := graph_eq_ok_iff.mp hg
  exact ⟨hk, graphOf sharedDesk, hg, hsides, by decide, by decide⟩

end Workflow

end ServiceBlueprint
