import ServiceBlueprint.Proofs.Workflow.Routes
import ServiceBlueprint.Proofs.Workflow.Review

/-!
# What the silence of a review means

A review without errors that does not miss an end is of a workflow whose start has a route to an
end. Transitions to ids that no role has are no rule's concern: a review of roles with such a
transition has nothing to report exactly if the workflow is in order without it.
-/

namespace ServiceBlueprint.Workflow

variable {roles : List Role} {registrations : List Registration} {r : Review}

/-! ### Rules with nothing to report -/

/-- One start role is nothing to report, and anything else is an error. -/
theorem startIssues_cases {start : List Issue} (h : startIssues roles = .ok start) :
    (∃ s, startRoles roles = [s]) ∧ start = [] ∨ ∃ i, start = [i] ∧ i.severity = .error := by
  unfold startIssues at h
  split at h
  next =>
    cases h
    exact Or.inr ⟨.noStartRole, rfl, rfl⟩
  next s hs =>
    cases h
    exact Or.inl ⟨⟨s, hs⟩, rfl⟩
  next several _ _ =>
    obtain ⟨names, -, h⟩ := Attempt.bind_eq_ok.mp h
    cases h
    exact Or.inr ⟨.multipleStartRoles names, rfl, rfl⟩

theorem noEndRole_mem_flowIssues_iff :
    Issue.noEndRole ∈ flowIssues roles (graphOf roles) ↔
      (∃ a b, PassesTo roles a b) ∧ ¬ ∃ e ∈ roles, IsEnd roles e.id := by
  rw [← hasEdges_graphOf_iff_passesTo, ← terminals_graphOf_isEmpty_iff, flowIssues]
  cases (graphOf roles).hasEdges <;> cases (graphOf roles).terminals.isEmpty <;> simp

theorem flowIssues_eq_nil_iff (hpass : ∃ a b, PassesTo roles a b) :
    flowIssues roles (graphOf roles) = [] ↔ ∃ e ∈ roles, IsEnd roles e.id := by
  rw [flowIssues, hasEdges_graphOf_iff_passesTo.mpr hpass, ← not_iff_not,
    ← terminals_graphOf_isEmpty_iff]
  simp

theorem reachabilityIssues_eq_nil_iff {s : Role} (hs : startRoles roles = [s]) :
    reachabilityIssues roles (graphOf roles) = [] ↔ ∀ r ∈ roles, Route roles s.id r.id := by
  unfold reachabilityIssues
  rw [hs]
  simp only [List.map_eq_nil_iff, List.filter_eq_nil_iff, Bool.not_eq_true', Bool.not_eq_false]
  apply forall₂_congr
  intro r hr
  exact contains_reachableFrom_iff_route (isRoleId_of_mem hr)

theorem severity_of_mem_reachabilityIssues {g : Adjacency Value} {i : Issue}
    (hi : i ∈ reachabilityIssues roles g) : i.severity = .error := by
  unfold reachabilityIssues at hi
  split at hi
  · obtain ⟨r, -, rfl⟩ := List.mem_map.mp hi
    rfl
  · cases hi

theorem orphanIssues_eq_nil_iff (hpass : ∃ a b, PassesTo roles a b) :
    orphanIssues roles (graphOf roles) = [] ↔
      ∀ r ∈ roles, r.isStart = false → ∃ a, PassesTo roles a r.id := by
  rw [orphanIssues, if_pos (hasEdges_graphOf_iff_passesTo.mpr hpass), List.map_eq_nil_iff,
    List.filter_eq_nil_iff]
  apply forall₂_congr
  intro r hr
  rw [Bool.and_eq_true, sources_graphOf_isEmpty_iff hr]
  simp

theorem bindingIssues_eq_nil_iff :
    bindingIssues roles registrations = [] ↔
      (∀ g ∈ registrations, g.roleIds ≠ []) ∧
        ∀ r ∈ roles, r.type = .user → r.institutionIds ≠ [] := by
  rw [bindingIssues_eq, bindingsAsked]
  simp

/-! ### The way to an end -/

/-- Without transitions every role is an end. -/
theorem exists_end_of_flow (hne : roles ≠ [])
    (h : Issue.noEndRole ∉ flowIssues roles (graphOf roles)) : ∃ e ∈ roles, IsEnd roles e.id := by
  by_cases hpass : ∃ a b, PassesTo roles a b
  · rw [noEndRole_mem_flowIssues_iff, not_and, not_not] at h
    exact h hpass
  · obtain ⟨first, hfirst⟩ := List.exists_mem_of_ne_nil roles hne
    exact ⟨first, hfirst, fun b hb => hpass ⟨first.id, b, hb⟩⟩

/-- Where no error and no missing end is reported, the only start has a route to an end. -/
theorem review_route_to_end (h : review roles registrations = .ok r) (herrors : r.errors = [])
    (hend : Issue.noEndRole ∉ r.issues) :
    ∃ s, startRoles roles = [s] ∧ ∃ e ∈ roles, Route roles s.id e.id ∧ IsEnd roles e.id := by
  have hsilent : ∀ i ∈ r.issues, i.severity ≠ .error := by
    rw [← valid_iff, Review.valid, herrors]
    rfl
  have hne : roles ≠ [] := by
    rintro rfl
    cases h
    exact hsilent .noRoles List.mem_cons_self rfl
  obtain ⟨-, start, hstart, rfl⟩ := (review_eq_ok_iff hne).mp h
  simp only [List.mem_append, or_imp, forall_and, not_or] at hsilent hend
  obtain ⟨⟨⟨⟨hstarts, -⟩, hreach⟩, -⟩, -⟩ := hsilent
  obtain ⟨⟨⟨⟨-, hflow⟩, -⟩, -⟩, -⟩ := hend
  obtain ⟨⟨s, hs⟩, -⟩ | ⟨i, rfl, hi⟩ := startIssues_cases hstart
  · have hnil : reachabilityIssues roles (graphOf roles) = [] := by
      rw [List.eq_nil_iff_forall_not_mem]
      exact fun i hi => hreach i hi (severity_of_mem_reachabilityIssues hi)
    obtain ⟨e, he, hlast⟩ := exists_end_of_flow hne hflow
    exact ⟨s, hs, e, he, (reachabilityIssues_eq_nil_iff hs).mp hnil e he, hlast⟩
  · exact absurd hi (hstarts i List.mem_cons_self)

/-- A role that passes to a last one, and to a role that is gone. -/
def handover : List Role :=
  [⟨.text "a", .text "Office", .bot, true, [⟨"1", .passed, [⟨"1", .text "b", .null, 0⟩,
      ⟨"2", .text "gone", .null, 1⟩]⟩], []⟩,
    ⟨.text "b", .text "Archive", .bot, false, [], []⟩]

theorem review_handover : review handover [] = .ok ⟨[]⟩ := by
  rfl

theorem review_route_to_end_handover :
    review handover [] = .ok ⟨[]⟩ ∧ ∃ s, startRoles handover = [s] ∧
      ∃ e ∈ handover, Route handover s.id e.id ∧ IsEnd handover e.id :=
  ⟨review_handover, review_route_to_end review_handover rfl List.not_mem_nil⟩

/-! ### Transitions to ids that no role has -/

def Dangles (roles : List Role) : Prop :=
  ∃ a b, PassesTo roles a b ∧ ¬ IsRoleId roles b

/-- All that a review of roles with transitions asks for. Where transitions lead is not asked. -/
structure InOrder (roles : List Role) (registrations : List Registration) : Prop where
  started : ∃ s, startRoles roles = [s] ∧ ∀ r ∈ roles, Route roles s.id r.id
  ended : ∃ r ∈ roles, IsEnd roles r.id
  entered : ∀ r ∈ roles, r.isStart = false → ∃ a, PassesTo roles a r.id
  bound : ∀ g ∈ registrations, g.roleIds ≠ []
  assigned : ∀ r ∈ roles, r.type = .user → r.institutionIds ≠ []

/-- It is enough to look through the transitions there are. -/
theorem dangles_iff : Dangles roles ↔ ∃ e ∈ edges roles, ∀ r ∈ roles, (r.id == e.2) = false := by
  constructor
  · rintro ⟨a, b, hab, hb⟩
    obtain ⟨e, he, -, hsame⟩ := passesTo_iff_exists_edge.mp hab
    refine ⟨e, he, ?_⟩
    intro r hr
    rw [← Bool.not_eq_true]
    exact fun hid => hb (IsRoleId.congr ⟨r, hr, hid⟩ hsame)
  · rintro ⟨e, he, hnone⟩
    refine ⟨e.1, e.2, passesTo_iff_exists_edge.mpr ⟨e, he, BEq.rfl, BEq.rfl⟩, ?_⟩
    rintro ⟨r, hr, hid⟩
    rw [hnone r hr] at hid
    cases hid

theorem Dangles.exists_passesTo (hd : Dangles roles) : ∃ a b, PassesTo roles a b := by
  obtain ⟨a, b, hab, -⟩ := hd
  exact ⟨a, b, hab⟩

theorem Dangles.ne_nil (hd : Dangles roles) : roles ≠ [] := by
  rintro rfl
  obtain ⟨a, b, ⟨r, hr, -⟩, -⟩ := hd
  cases hr

/-- A review of roles with a transition to an id that no role has is made under the same conditions
as any other. It has something to report exactly if the roles are out of order otherwise. -/
theorem review_of_dangles (registrations : List Registration) (hd : Dangles roles) :
    ((∃ r, review roles registrations = .ok r) ↔ Keyed roles ∧ ListableStarts roles) ∧
      ∀ r, review roles registrations = .ok r →
        (r.issues ≠ [] ↔ ¬ InOrder roles registrations) := by
  refine ⟨review_isOk_iff registrations hd.ne_nil, ?_⟩
  intro r hr
  obtain ⟨-, start, hstart, rfl⟩ := (review_eq_ok_iff hd.ne_nil).mp hr
  rw [ne_eq, not_iff_not]
  simp only [List.append_eq_nil_iff, flowIssues_eq_nil_iff hd.exists_passesTo,
    orphanIssues_eq_nil_iff hd.exists_passesTo, bindingIssues_eq_nil_iff]
  constructor
  · rintro ⟨⟨⟨⟨hnone, hended⟩, hreach⟩, hentered⟩, hbound, hassigned⟩
    obtain ⟨⟨s, hs⟩, -⟩ | ⟨i, hi, -⟩ := startIssues_cases hstart
    · exact ⟨⟨s, hs, (reachabilityIssues_eq_nil_iff hs).mp hreach⟩, hended, hentered, hbound,
        hassigned⟩
    · rw [hi] at hnone
      cases hnone
  · rintro ⟨⟨s, hs, hreach⟩, hended, hentered, hbound, hassigned⟩
    have hnone : start = [] := by
      rw [startIssues, hs] at hstart
      cases hstart
      rfl
    exact ⟨⟨⟨⟨hnone, hended⟩, (reachabilityIssues_eq_nil_iff hs).mpr hreach⟩, hentered⟩, hbound,
      hassigned⟩

theorem review_of_dangles_detour :
    Dangles detour ∧ ∃ r, review detour [] = .ok r ∧ r.issues ≠ [] := by
  have hd : Dangles detour := dangles_iff.mpr (by decide)
  obtain ⟨hmade, hissues⟩ := review_of_dangles [] hd
  have hkeyed : Keyed detour := by
    unfold Keyed
    decide
  have hout : ¬ InOrder detour [] := fun h => absurd h.assigned (by decide)
  obtain ⟨r, hr⟩ := hmade.mpr ⟨hkeyed, fun h => absurd h (by decide)⟩
  exact ⟨hd, r, hr, (hissues r hr).mpr hout⟩

/-- The role that is gone passes unnoticed. -/
theorem not_reported_handover :
    Dangles handover ∧ ∃ r, review handover [] = .ok r ∧ r.issues = [] :=
  ⟨dangles_iff.mpr (by decide), _, review_handover, rfl⟩

end ServiceBlueprint.Workflow
