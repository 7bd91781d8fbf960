import ServiceBlueprint.Proofs.Attempt
import ServiceBlueprint.Proofs.Workflow.RoleGraph
import ServiceBlueprint.Workflow.Validation

/-!
# What a review reports

The rules of a review, said of the roles themselves: `asked` lists the issues that the relation
`LeadsTo` and its closure call for. A review of roles with textual ids reports this list, and it is
valid when there is one start, the start leads to every role, and human roles have institutions.
-/

namespace ServiceBlueprint.Workflow

open Relation
open scoped Classical

/-! ### The rules -/

/-- The names of the start roles. -/
def startNames (roles : List Role) : List String :=
  (startRoles roles).map (·.name.display)

def startAsked (roles : List Role) : List Issue :=
  if ∀ r ∈ roles, r.isStart = false then [.noStartRole]
  else if 2 ≤ roles.countP (·.isStart) then [.multipleStartRoles (startNames roles)]
  else []

noncomputable def flowAsked (roles : List Role) : List Issue :=
  (if (∀ a b, ¬ LeadsTo roles a b) ∧ 1 < roles.length then [.noTransitions] else []) ++
  (if (∃ a b, LeadsTo roles a b) ∧ ∀ r ∈ roles, ∃ b, LeadsTo roles r.id b then [.noEndRole] else [])

/-- A role is within reach if some start role leads to it, in any number of steps. -/
def WithinReach (roles : List Role) (r : Role) : Prop :=
  ∃ s ∈ startRoles roles, ReflTransGen (LeadsTo roles) s.id r.id

noncomputable def unreachableAsked (roles : List Role) : List Issue :=
  if roles.countP (·.isStart) = 1 then
    (roles.filter fun r => ¬ WithinReach roles r).map (.unreachableRole ·.subject)
  else []

noncomputable def orphansAsked (roles : List Role) : List Issue :=
  if ∃ a b, LeadsTo roles a b then
    (roles.filter fun r => r.isStart = false ∧ ∀ a, ¬ LeadsTo roles a r.id).map
      (.orphanRole ·.subject)
  else []

def bindingsAsked (roles : List Role) (registrations : List Registration) : List Issue :=
  (registrations.filter fun r => r.roleIds = []).map (.unboundRegistration ·.subject) ++
  (roles.filter fun r => r.type = .user ∧ r.institutionIds = []).map
    (.unassignedInstitution ·.subject)

noncomputable def asked (roles : List Role) (registrations : List Registration) : List Issue :=
  startAsked roles ++ flowAsked roles ++ unreachableAsked roles ++ orphansAsked roles ++
    bindingsAsked roles registrations

/-! ### Each rule is followed -/

theorem length_startRoles (roles : List Role) :
    (startRoles roles).length = roles.countP (·.isStart) :=
  List.countP_eq_length_filter.symm

theorem startRoles_eq_nil_iff {roles : List Role} :
    startRoles roles = [] ↔ ∀ r ∈ roles, r.isStart = false := by
  simp [startRoles, List.filter_eq_nil_iff]

/-- Several start roles can be listed only by textual names. -/
def ListableStarts (roles : List Role) : Prop :=
  2 ≤ (startRoles roles).length → ∀ r ∈ startRoles roles, r.name.isText = true

theorem listedNames_eq {roles : List Role} (h : ∀ r ∈ roles, r.name.isText = true) :
    listedNames roles = .ok (roles.map (·.name.display)) := by
  have hnames : roles.map (·.name) = (roles.map (·.name.display)).map .text := by
    rw [List.map_map]
    exact List.map_congr_left fun r hr => (Value.text_display (h r hr)).symm
  rw [listedNames, hnames, Value.allText?_map_text]

theorem startIssues_eq {roles : List Role} (hn : ListableStarts roles) :
    startIssues roles = .ok (startAsked roles) := by
  unfold startIssues startAsked
  simp only [← startRoles_eq_nil_iff, ← length_startRoles]
  match hs : startRoles roles with
  | [] => simp
  | [s] => simp
  | s :: s' :: rest =>
    have hnames := listedNames_eq (hn (by rw [hs]; simp))
    rw [hs] at hnames
    change (do return [Issue.multipleStartRoles (← listedNames (s :: s' :: rest))]) = _
    rw [hnames, if_neg (List.cons_ne_nil _ _), if_pos (by simp), startNames, hs]
    rfl

theorem flowIssues_eq {roles : List Role} (ht : TextIds roles) :
    flowIssues roles (graphOf roles) = flowAsked roles := by
  have hnone : (graphOf roles).hasEdges = false ↔ ∀ a b, ¬ LeadsTo roles a b := by
    rw [← Bool.not_eq_true, hasEdges_graphOf_iff]
    simp only [not_exists]
  simp only [flowIssues, flowAsked, Bool.and_eq_true, Bool.not_eq_true', decide_eq_true_eq,
    hnone, hasEdges_graphOf_iff, terminals_graphOf_iff ht, gt_iff_lt]

theorem reachabilityIssues_eq {roles : List Role} (ht : TextIds roles) :
    reachabilityIssues roles (graphOf roles) = unreachableAsked roles := by
  unfold reachabilityIssues unreachableAsked WithinReach
  rw [← length_startRoles]
  match startRoles roles with
  | [] => simp
  | [s] =>
    simp only [List.length_singleton, if_true, List.mem_singleton, exists_eq_left]
    congr 1
    apply List.filter_congr
    intro r hr
    rw [Bool.eq_iff_iff, Bool.not_eq_true', ← Bool.not_eq_true,
      contains_reachableFrom_graphOf_iff ht hr, decide_eq_true_eq]
  | s :: s' :: rest => simp

theorem orphanIssues_eq {roles : List Role} (ht : TextIds roles) :
    orphanIssues roles (graphOf roles) = orphansAsked roles := by
  unfold orphanIssues orphansAsked
  simp only [hasEdges_graphOf_iff]
  congr 2
  apply List.filter_congr
  intro r hr
  rw [Bool.eq_iff_iff, Bool.and_eq_true, Bool.not_eq_true', sources_graphOf_isEmpty_iff hr,
    decide_eq_true_eq]
  simp only [ht.passesTo_iff]

theorem bindingIssues_eq (roles : List Role) (registrations : List Registration) :
    bindingIssues roles registrations = bindingsAsked roles registrations := by
  have hunbound : (registrations.filter fun r => r.roleIds.isEmpty) =
      registrations.filter fun r => r.roleIds = [] :=
    List.filter_congr fun r _ => by rw [Bool.eq_iff_iff, List.isEmpty_iff, decide_eq_true_eq]
  have hunassigned : (roles.filter fun r => r.isHuman && r.institutionIds.isEmpty) =
      roles.filter fun r => r.type = .user ∧ r.institutionIds = [] :=
    List.filter_congr fun r _ => by
      rw [Bool.eq_iff_iff, Bool.and_eq_true, List.isEmpty_iff, decide_eq_true_eq, Role.isHuman,
        decide_eq_true_eq]
  rw [bindingIssues, bindingsAsked, hunbound, hunassigned]

/-! ### When there is a review -/

theorem listedNames_isOk_iff {roles : List Role} :
    (∃ names, listedNames roles = .ok names) ↔ ∀ r ∈ roles, r.name.isText = true := by
  have htexts : (∀ r ∈ roles, r.name.isText = true) ↔
      (Value.allText? (roles.map (·.name))).isSome = true := by
    rw [Value.allText?_isSome_iff, List.forall_mem_map]
  rw [htexts, listedNames]
  cases Value.allText? (roles.map (·.name)) <;> simp

theorem startIssues_isOk_iff {roles : List Role} :
    (∃ start, startIssues roles = .ok start) ↔ ListableStarts roles := by
  constructor
  · rintro ⟨start, h⟩ hseveral
    unfold startIssues at h
    split at h
    next hs => simp [hs] at hseveral
    next s hs => simp [hs] at hseveral
    next several _ _ =>
      obtain ⟨names, hnames, -⟩ := Attempt.bind_eq_ok.mp h
      exact listedNames_isOk_iff.mp ⟨names, hnames⟩
  · exact fun hn => ⟨startAsked roles, startIssues_eq hn⟩

/-- What is reported of some roles, rule by rule. -/
theorem review_eq_ok_iff {roles : List Role} {registrations : List Registration} {r : Review}
    (hne : roles ≠ []) :
    review roles registrations = .ok r ↔
      Keyed roles ∧ ∃ start, startIssues roles = .ok start ∧
        ⟨start ++ flowIssues roles (graphOf roles) ++ reachabilityIssues roles (graphOf roles) ++
          orphanIssues roles (graphOf roles) ++ bindingIssues roles registrations⟩ = r := by
  unfold review
  rw [if_neg (by simpa using hne), Attempt.bind_eq_ok]
  simp only [Attempt.bind_eq_ok, graph_eq_ok_iff]
  constructor
  · rintro ⟨start, hstart, g, ⟨hkeyed, rfl⟩, h⟩
    exact ⟨hkeyed, start, hstart, Except.ok.inj h⟩
  · rintro ⟨hkeyed, start, hstart, rfl⟩
    exact ⟨start, hstart, graphOf roles, ⟨hkeyed, rfl⟩, rfl⟩

theorem review_isOk_iff {roles : List Role} (registrations : List Registration)
    (hne : roles ≠ []) :
    (∃ r, review roles registrations = .ok r) ↔ Keyed roles ∧ ListableStarts roles := by
  simp only [review_eq_ok_iff hne, ← startIssues_isOk_iff]
  constructor
  · rintro ⟨r, hkeyed, start, hstart, -⟩
    exact ⟨hkeyed, start, hstart⟩
  · rintro ⟨hkeyed, start, hstart⟩
    exact ⟨_, hkeyed, start, hstart, rfl⟩

theorem review_eq_asked {roles : List Role} (registrations : List Registration)
    (hne : roles ≠ []) (ht : TextIds roles) (hn : ListableStarts roles) :
    review roles registrations = .ok ⟨asked roles registrations⟩ := by
  rw [review_eq_ok_iff hne]
  refine ⟨ht.keyed, startAsked roles, startIssues_eq hn, ?_⟩
  rw [flowIssues_eq ht, reachabilityIssues_eq ht, orphanIssues_eq ht, bindingIssues_eq, asked]

/-! ### Which reviews are valid -/

theorem valid_iff {r : Review} : r.valid = true ↔ ∀ i ∈ r.issues, i.severity ≠ .error := by
  simp [Review.valid, Review.errors, List.filter_eq_nil_iff]

theorem startAsked_without_errors {roles : List Role} :
    (∀ i ∈ startAsked roles, i.severity ≠ .error) ↔ (startRoles roles).length = 1 := by
  unfold startAsked
  simp only [← startRoles_eq_nil_iff, ← length_startRoles]
  match startRoles roles with
  | [] => simp [Issue.severity]
  | [_] => simp
  | _ :: _ :: _ => simp [Issue.severity]

theorem flowAsked_without_errors (roles : List Role) :
    ∀ i ∈ flowAsked roles, i.severity ≠ .error := by
  intro i hi
  rcases List.mem_append.mp hi with hi | hi
  · split at hi
    · rw [List.mem_singleton.mp hi]
      decide
    · cases hi
  · split at hi
    · rw [List.mem_singleton.mp hi]
      decide
    · cases hi

theorem unreachableAsked_without_errors {roles : List Role} (h : (startRoles roles).length = 1) :
    (∀ i ∈ unreachableAsked roles, i.severity ≠ .error) ↔ ∀ r ∈ roles, WithinReach roles r := by
  unfold unreachableAsked
  rw [if_pos (length_startRoles roles ▸ h), List.forall_mem_map]
  simp [Issue.severity]

theorem orphansAsked_without_errors (roles : List Role) :
    ∀ i ∈ orphansAsked roles, i.severity ≠ .error := by
  intro i hi
  unfold orphansAsked at hi
  split at hi
  · obtain ⟨r, -, rfl⟩ := List.mem_map.mp hi
    simp [Issue.severity]
  · cases hi

theorem bindingsAsked_without_errors {roles : List Role} {registrations : List Registration} :
    (∀ i ∈ bindingsAsked roles registrations, i.severity ≠ .error) ↔
      ∀ r ∈ roles, r.type = .user → r.institutionIds ≠ [] := by
  unfold bindingsAsked
  simp only [List.mem_append, or_imp, forall_and, List.forall_mem_map]
  simp [Issue.severity]

/-- A review reports exactly what the rules ask for, in their order. It is valid exactly when a
single start leads to every role and every human role has an institution. -/
theorem review_reports_asked {roles : List Role} (registrations : List Registration)
    (hne : roles ≠ []) (ht : TextIds roles) (hn : ListableStarts roles) :
    ∃ r, review roles registrations = .ok r ∧ r.issues = asked roles registrations ∧
      (r.valid = true ↔
        (∃ s, startRoles roles = [s] ∧ ∀ r ∈ roles, ReflTransGen (LeadsTo roles) s.id r.id) ∧
          ∀ r ∈ roles, r.type = .user → r.institutionIds ≠ []) := by
  refine ⟨_, review_eq_asked registrations hne ht hn, rfl, ?_⟩
  have hflow := flowAsked_without_errors roles
  have horphans := orphansAsked_without_errors roles
  rw [valid_iff]
  simp only [asked, List.mem_append, or_imp, forall_and, startAsked_without_errors,
    bindingsAsked_without_errors]
  constructor
  · rintro ⟨⟨⟨⟨hone, -⟩, hreach⟩, -⟩, hbound⟩
    refine ⟨?_, hbound⟩
    obtain ⟨s, hs⟩ := List.length_eq_one_iff.mp hone
    refine ⟨s, hs, fun r hr => ?_⟩
    obtain ⟨s', hs', hpath⟩ := (unreachableAsked_without_errors hone).mp hreach r hr
    rw [hs, List.mem_singleton] at hs'
    rwa [← hs']
  · rintro ⟨⟨s, hs, hpath⟩, hbound⟩
    have hone : (startRoles roles).length = 1 := by rw [hs]; rfl
    have hreach := (unreachableAsked_without_errors hone).mpr fun r hr =>
      ⟨s, by rw [hs]; exact List.mem_singleton_self s, hpath r hr⟩
    exact ⟨⟨⟨⟨hone, hflow⟩, hreach⟩, horphans⟩, hbound⟩

/-- Two roles that pass to each other and to a role that is gone, and a third that only would. -/
def detour : List Role :=
  [⟨.text "a", .text "Office", .bot, true, [⟨"1", .passed, [⟨"1", .text "b", .null, 0⟩,
      ⟨"2", .text "gone", .null, 1⟩]⟩], []⟩,
    ⟨.text "b", .text "Board", .bot, false, [⟨"2", .returned, [⟨"3", .text "a", .null, 0⟩]⟩], []⟩,
    ⟨.text "c", .text "Clerk", .user, false, [⟨"3", .pending, [⟨"4", .text "a", .null, 0⟩]⟩], []⟩]

theorem review_reports_asked_detour :
    detour ≠ [] ∧ TextIds detour ∧ ListableStarts detour ∧
      ∃ r, review detour [] = .ok r ∧ r.issues = asked detour [] ∧
        (r.valid = true ↔
          (∃ s, startRoles detour = [s] ∧
            ∀ r ∈ detour, ReflTransGen (LeadsTo detour) s.id r.id) ∧
          ∀ r ∈ detour, r.type = .user → r.institutionIds ≠ []) ∧
        r.issues.map Issue.code =
          ["UNREACHABLE_ROLE", "ORPHAN_ROLE", "UNASSIGNED_INSTITUTION"] := by
  have hne : detour ≠ [] := List.cons_ne_nil _ _
  have ht : TextIds detour := ⟨by decide, by decide⟩
  have hn : ListableStarts detour := fun h => absurd h (by decide)
  obtain ⟨r, hr, hissues, hvalid⟩ := review_reports_asked [] hne ht hn
  have hcodes : (review detour []).toOption.map (fun r => r.issues.map Issue.code) =
      some ["UNREACHABLE_ROLE", "ORPHAN_ROLE", "UNASSIGNED_INSTITUTION"] := by decide
  rw [hr] at hcodes
  exact ⟨hne, ht, hn, r, hr, hissues, hvalid, Option.some.inj hcodes⟩

end ServiceBlueprint.Workflow
