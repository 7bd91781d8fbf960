import ServiceBlueprint.Proofs.Workflow.RoleGraph

/-!
# Routes between roles

A route goes along transitions and never leaves the ids of roles. Ids of any kind are told apart by
the sameness of values only. What a search of the graph finds among the roles are just those that a
route leads to.
-/

namespace ServiceBlueprint.Workflow

def IsRoleId (roles : List Role) (a : Value) : Prop :=
  ∃ r ∈ roles, (r.id == a) = true

/-- A way along transitions from id to id of roles. -/
inductive Route (roles : List Role) (start : Value) : Value → Prop
  | here {a : Value} : (start == a) = true → Route roles start a
  | step {a b : Value} :
    Route roles start a → PassesTo roles a b → IsRoleId roles b → Route roles start b

variable {roles : List Role} {a b c : Value}

theorem PassesTo.congr_left (h : PassesTo roles a b) (hac : (a == c) = true) :
    PassesTo roles c b := by
  obtain ⟨r, hr, ha, hb⟩ := h
  exact ⟨r, hr, BEq.trans ha hac, hb⟩

theorem PassesTo.congr_right (h : PassesTo roles a b) (hbc : (b == c) = true) :
    PassesTo roles a c := by
  obtain ⟨r, hr, ha, s, hs, hcode, t, ht, hb⟩ := h
  exact ⟨r, hr, ha, s, hs, hcode, t, ht, BEq.trans hb hbc⟩

theorem PassesTo.isRoleId (h : PassesTo roles a b) : IsRoleId roles a := by
  obtain ⟨r, hr, ha, -⟩ := h
  exact ⟨r, hr, ha⟩

theorem IsRoleId.congr (h : IsRoleId roles a) (hab : (a == b) = true) : IsRoleId roles b := by
  obtain ⟨r, hr, ha⟩ := h
  exact ⟨r, hr, BEq.trans ha hab⟩

theorem isRoleId_of_mem {r : Role} (hr : r ∈ roles) : IsRoleId roles r.id :=
  ⟨r, hr, BEq.rfl⟩

/-! ### What the search finds -/

/-- Every node but the last of a walk has a target, so it is the id of a role. -/
theorem route_of_reachable {start : Value} (h : (graphOf roles).Reachable start a)
    (hb : IsRoleId roles b) (hab : (a == b) = true) : Route roles start b := by
  induction h generalizing b with
  | refl => exact Route.here hab
  | @step node target _ htarget ih =>
    have hpass : PassesTo roles node target :=
      contains_targets_graphOf.mp (Adjacency.contains_of_mem htarget)
    exact (ih hpass.isRoleId BEq.rfl).step (hpass.congr_right hab) hb

theorem exists_reachable_of_route {start : Value} (h : Route roles start a) :
    ∃ x, (graphOf roles).Reachable start x ∧ (a == x) = true := by
  induction h with
  | here ha => exact ⟨start, Adjacency.Reachable.refl, BEq.symm ha⟩
  | step _ hpass _ ih =>
    obtain ⟨x, hx, hsame⟩ := ih
    have htarget := contains_targets_graphOf.mpr (hpass.congr_left hsame)
    obtain ⟨y, hy, hby⟩ := List.contains_iff_exists_mem_beq.mp htarget
    exact ⟨y, hx.step hy, hby⟩

theorem contains_reachableFrom_iff_route {start : Value} (ha : IsRoleId roles a) :
    ((graphOf roles).reachableFrom start).contains a = true ↔ Route roles start a := by
  rw [Adjacency.contains_reachableFrom_iff]
  constructor
  · rintro ⟨x, hx, hsame⟩
    exact route_of_reachable hx ha (BEq.symm hsame)
  · exact exists_reachable_of_route

end ServiceBlueprint.Workflow
