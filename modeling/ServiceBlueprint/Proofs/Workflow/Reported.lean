import Mathlib.Data.List.Forall2
import ServiceBlueprint.Proofs.Workflow.Review
import ServiceBlueprint.Proofs.Workflow.Routes

/-!
# Which roles are reported

A review names roles under the codes of three rules. Where there is one start, the roles named as
unreachable are those that the search misses, and the orphans are those without sources, in the
order of the roles. Every route but the empty one comes in by a source, so an orphan whose id is
not that of the start is unreachable as well.
-/

namespace ServiceBlueprint.Workflow

/-- The roles that issues of a code are about, in the order of the issues. -/
def rolesUnder (code : String) (issues : List Issue) : List Subject :=
  (issues.filter (·.code = code)).filterMap (·.role?)

def unreached (roles : List Role) (s : Role) : List Role :=
  roles.filter fun r => !((graphOf roles).reachableFrom s.id).contains r.id

def unentered (roles : List Role) : List Role :=
  roles.filter fun r => !r.isStart && ((graphOf roles).sources r.id).isEmpty

/-! ### Issues by code -/

theorem rolesUnder_append (code : String) (is js : List Issue) :
    rolesUnder code (is ++ js) = rolesUnder code is ++ rolesUnder code js := by
  unfold rolesUnder
  rw [List.filter_append, List.filterMap_append]

theorem rolesUnder_eq_nil {code : String} {issues : List Issue}
    (h : ∀ i ∈ issues, i.role? = none) : rolesUnder code issues = [] := by
  rw [rolesUnder, List.filterMap_eq_nil_iff]
  intro i hi
  exact h i (List.mem_of_mem_filter hi)

/-- A rule about roles names all it reports under its own code, and none under another. -/
theorem rolesUnder_map (rule : Subject → Issue) (own : String) (hcode : ∀ s, (rule s).code = own)
    (hrole : ∀ s, (rule s).role? = some s) (code : String) (roles : List Role) :
    rolesUnder code (roles.map fun r => rule r.subject) =
      if own = code then roles.map (·.subject) else [] := by
  unfold rolesUnder
  rw [List.filter_map]
  by_cases h : own = code
  · have hall : roles.filter ((·.code = code) ∘ fun r => rule r.subject) = roles := by
      rw [List.filter_eq_self]
      intro r _
      simp [hcode, h]
    have hsome : (Issue.role? ∘ fun r : Role => rule r.subject) = some ∘ (·.subject) :=
      funext fun r => hrole r.subject
    rw [if_pos h, hall, List.filterMap_map, hsome, List.filterMap_eq_map]
  · have hnone : roles.filter ((·.code = code) ∘ fun r => rule r.subject) = [] := by
      rw [List.filter_eq_nil_iff]
      intro r _
      simp [hcode, h]
    rw [if_neg h, hnone]
    rfl

theorem role?_of_mem_startIssues {roles : List Role} {start : List Issue}
    (h : startIssues roles = .ok start) : ∀ i ∈ start, i.role? = none := by
  unfold startIssues at h
  split at h
  next =>
    cases h
    simp [Issue.role?]
  next =>
    cases h
    simp
  next =>
    obtain ⟨names, -, h⟩ := Attempt.bind_eq_ok.mp h
    cases h
    simp [Issue.role?]

theorem role?_of_mem_flowIssues {roles : List Role} {g : Adjacency Value} :
    ∀ i ∈ flowIssues roles g, i.role? = none := by
  intro i hi
  unfold flowIssues at hi
  rcases List.mem_append.mp hi with hi | hi
  · split at hi
    · rw [List.mem_singleton.mp hi]
      rfl
    · cases hi
  · split at hi
    · rw [List.mem_singleton.mp hi]
      rfl
    · cases hi

theorem rolesUnder_bindingIssues (code : String) (hcode : code ≠ "UNASSIGNED_INSTITUTION")
    (roles : List Role) (registrations : List Registration) :
    rolesUnder code (bindingIssues roles registrations) = [] := by
  rw [bindingIssues, rolesUnder_append,
    rolesUnder_map .unassignedInstitution "UNASSIGNED_INSTITUTION" (fun _ => rfl) (fun _ => rfl),
    if_neg hcode.symm, List.append_nil]
  apply rolesUnder_eq_nil
  rw [List.forall_mem_map]
  exact fun _ _ => rfl

variable {roles : List Role} {registrations : List Registration} {r : Review} {s : Role}

theorem ne_nil_of_startRoles (hs : startRoles roles = [s]) : roles ≠ [] := by
  rintro rfl
  cases hs

theorem reachabilityIssues_of_start (hs : startRoles roles = [s]) :
    reachabilityIssues roles (graphOf roles) =
      (unreached roles s).map fun r => .unreachableRole r.subject := by
  unfold reachabilityIssues
  rw [hs]
  rfl

/-- With one start, a review is made of roles whose ids may be keys. -/
theorem exists_review_of_start (registrations : List Registration) (hs : startRoles roles = [s])
    (hk : Keyed roles) : ∃ r, review roles registrations = .ok r := by
  rw [review_isOk_iff registrations (ne_nil_of_startRoles hs)]
  refine ⟨hk, ?_⟩
  intro hseveral
  rw [hs] at hseveral
  simp at hseveral

theorem rolesUnder_unreachable (hs : startRoles roles = [s])
    (h : review roles registrations = .ok r) :
    rolesUnder "UNREACHABLE_ROLE" r.issues = (unreached roles s).map (·.subject) := by
  obtain ⟨-, start, hstart, rfl⟩ := (review_eq_ok_iff (ne_nil_of_startRoles hs)).mp h
  have horphans : rolesUnder "UNREACHABLE_ROLE" (orphanIssues roles (graphOf roles)) = [] := by
    unfold orphanIssues
    split
    · rw [rolesUnder_map .orphanRole "ORPHAN_ROLE" (fun _ => rfl) (fun _ => rfl),
        if_neg (by decide)]
    · rfl
  simp only [rolesUnder_append, rolesUnder_eq_nil (role?_of_mem_startIssues hstart),
    rolesUnder_eq_nil role?_of_mem_flowIssues, horphans,
    rolesUnder_bindingIssues "UNREACHABLE_ROLE" (by decide), reachabilityIssues_of_start hs,
    List.nil_append, List.append_nil]
  rw [rolesUnder_map .unreachableRole "UNREACHABLE_ROLE" (fun _ => rfl) (fun _ => rfl), if_pos rfl]

theorem rolesUnder_orphan (hs : startRoles roles = [s]) (h : review roles registrations = .ok r) :
    rolesUnder "ORPHAN_ROLE" r.issues =
      if (graphOf roles).hasEdges then (unentered roles).map (·.subject) else [] := by
  obtain ⟨-, start, hstart, rfl⟩ := (review_eq_ok_iff (ne_nil_of_startRoles hs)).mp h
  have hreach : rolesUnder "ORPHAN_ROLE" (reachabilityIssues roles (graphOf roles)) = [] := by
    rw [reachabilityIssues_of_start hs,
      rolesUnder_map .unreachableRole "UNREACHABLE_ROLE" (fun _ => rfl) (fun _ => rfl),
      if_neg (by decide)]
  simp only [rolesUnder_append, rolesUnder_eq_nil (role?_of_mem_startIssues hstart),
    rolesUnder_eq_nil role?_of_mem_flowIssues, hreach,
    rolesUnder_bindingIssues "ORPHAN_ROLE" (by decide), List.nil_append, List.append_nil]
  unfold orphanIssues
  split
  · rw [rolesUnder_map .orphanRole "ORPHAN_ROLE" (fun _ => rfl) (fun _ => rfl), if_pos rfl]
    rfl
  · rfl

/-! ### Orphans and unreachable roles -/

/-- Of lists that correspond, what is selected of the second also is of the first. -/
theorem sublist_map_filter {α β γ : Type} {p : α → Bool} {q : β → Bool} {f : α → γ} {g : β → γ}
    {xs : List α} {ys : List β}
    (h : List.Forall₂ (fun x y => g y = f x ∧ (q y = true → p x = true)) xs ys) :
    ((ys.filter q).map g).Sublist ((xs.filter p).map f) := by
  induction h with
  | nil => exact List.Sublist.slnil
  | @cons x y xs ys hxy _ ih =>
    obtain ⟨hsame, hselect⟩ := hxy
    rw [List.filter_cons, List.filter_cons]
    by_cases hq : q y
    · rw [if_pos hq, if_pos (hselect hq), List.map_cons, List.map_cons, hsame]
      exact ih.cons_cons _
    · rw [if_neg hq]
      split
      · exact ih.cons _
      · exact ih

/-- The last step of a route comes from a source. -/
theorem not_route_of_unentered {r : Role} (hr : r ∈ unentered roles)
    (hid : (r.id == s.id) = false) : ¬ Route roles s.id r.id := by
  obtain ⟨hmem, hcond⟩ := List.mem_filter.mp hr
  rw [Bool.and_eq_true, sources_graphOf_isEmpty_iff hmem] at hcond
  intro hroute
  cases hroute with
  | here hsame =>
    rw [BEq.comm, hsame] at hid
    cases hid
  | step _ hpass _ => exact hcond.2 _ hpass

/-- With one start, orphans whose id is not that of the start are reported as unreachable too, one
for one. -/
theorem orphans_unreachable (registrations : List Registration) (hs : startRoles roles = [s])
    (hk : Keyed roles) :
    ∃ r, review roles registrations = .ok r ∧
      ((rolesUnder "ORPHAN_ROLE" r.issues).filter fun o => !(o.id == s.id)).Sublist
        (rolesUnder "UNREACHABLE_ROLE" r.issues) := by
  obtain ⟨r, hr⟩ := exists_review_of_start registrations hs hk
  refine ⟨r, hr, ?_⟩
  rw [rolesUnder_unreachable hs hr, rolesUnder_orphan hs hr]
  split
  · rw [List.filter_map, unentered, List.filter_filter]
    apply sublist_map_filter
    rw [List.forall₂_same]
    intro o ho
    refine ⟨rfl, ?_⟩
    intro hcond
    rw [Bool.and_eq_true] at hcond
    obtain ⟨hid, horphan⟩ := hcond
    have hout : ¬ Route roles s.id o.id :=
      not_route_of_unentered (List.mem_filter.mpr ⟨ho, horphan⟩) (by simpa [Role.subject] using hid)
    rw [← contains_reachableFrom_iff_route (isRoleId_of_mem ho)] at hout
    simpa using hout
  · exact List.nil_sublist _

/-- A start that passes to an archive, a second role of its id, and a clerk that appears twice and
that nobody passes to. -/
def idleClerks : List Role :=
  let archiving : List Status := [⟨"1", .passed, [⟨"1", .text "archive", .null, 0⟩]⟩]
  let clerk : Role := ⟨.text "clerk", .text "Clerk", .bot, false, archiving, []⟩
  [⟨.text "desk", .text "Front", .bot, true, archiving, []⟩,
    ⟨.text "desk", .text "Back", .bot, false, [], []⟩, clerk, clerk,
    ⟨.text "archive", .text "Archive", .bot, false, [], []⟩]

theorem orphans_unreachable_idleClerks :
    ∃ s, startRoles idleClerks = [s] ∧ Keyed idleClerks ∧
      ∃ r, review idleClerks [] = .ok r ∧
        ((rolesUnder "ORPHAN_ROLE" r.issues).filter fun o => !(o.id == s.id)).Sublist
          (rolesUnder "UNREACHABLE_ROLE" r.issues) ∧
        r.issues.map Issue.code =
          ["UNREACHABLE_ROLE", "UNREACHABLE_ROLE", "ORPHAN_ROLE", "ORPHAN_ROLE",
            "ORPHAN_ROLE"] := by
  have hk : Keyed idleClerks := by
    unfold Keyed
    decide
  have hs : startRoles idleClerks =
      [⟨.text "desk", .text "Front", .bot, true,
        [⟨"1", .passed, [⟨"1", .text "archive", .null, 0⟩]⟩], []⟩] := rfl
  obtain ⟨r, hr, hsub⟩ := orphans_unreachable [] hs hk
  have hcodes : (review idleClerks []).toOption.map (fun r => r.issues.map Issue.code) =
      some ["UNREACHABLE_ROLE", "UNREACHABLE_ROLE", "ORPHAN_ROLE", "ORPHAN_ROLE",
        "ORPHAN_ROLE"] := by
    decide
  rw [hr] at hcodes
  exact ⟨_, hs, hk, r, hr, hsub, Option.some.inj hcodes⟩

end ServiceBlueprint.Workflow
