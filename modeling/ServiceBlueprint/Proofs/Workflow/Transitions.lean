import Mathlib.Logic.Relation
import ServiceBlueprint.Proofs.Workflow.Reported
import ServiceBlueprint.Proofs.Workflow.Sides

/-!
# Reviews when transitions change

Two lists of roles that are alike but for their transitions are compared. Where the second passes
on at least what the first does, it has no further unreachable roles and no further orphans, and
misses an end if the first does. Where each passes on what the other does, their reviews are the
same, so it does not matter how transitions are arranged, nor what pending statuses say.
-/

namespace ServiceBlueprint.Workflow

/-- Roles that are alike in all that a review asks of a role but its transitions. -/
structure Akin (r r' : Role) : Prop where
  id : r'.id = r.id
  name : r'.name = r.name
  type : r'.type = r.type
  isStart : r'.isStart = r.isStart
  institutions : r'.institutionIds.isEmpty = r.institutionIds.isEmpty

/-- The second roles are those of the first, and pass on at least what these do. -/
structure Widens (roles roles' : List Role) : Prop where
  akin : List.Forall₂ Akin roles roles'
  passes : ∀ a b, PassesTo roles a b → PassesTo roles' a b

theorem forall₂_mem {α β : Type} {R : α → β → Prop} {xs : List α} {ys : List β}
    (h : List.Forall₂ R xs ys) : List.Forall₂ (fun x y => x ∈ xs ∧ y ∈ ys ∧ R x y) xs ys := by
  induction h with
  | nil => exact List.Forall₂.nil
  | cons hxy _ ih =>
    refine List.Forall₂.cons ⟨List.mem_cons_self, List.mem_cons_self, hxy⟩ (ih.imp ?_)
    rintro x y ⟨hx, hy, hxy⟩
    exact ⟨List.mem_cons_of_mem _ hx, List.mem_cons_of_mem _ hy, hxy⟩

variable {roles roles' : List Role} {registrations registrations' : List Registration}

/-! ### Roles that are alike -/

theorem Akin.symm {r r' : Role} (h : Akin r r') : Akin r' r :=
  ⟨h.id.symm, h.name.symm, h.type.symm, h.isStart.symm, h.institutions.symm⟩

theorem Akin.subject {r r' : Role} (h : Akin r r') : r'.subject = r.subject := by
  rw [Role.subject, Role.subject, h.id, h.name]

theorem akin_symm (h : List.Forall₂ Akin roles roles') : List.Forall₂ Akin roles' roles :=
  List.Forall₂.flip (h.imp fun _ _ => Akin.symm)

theorem map_eq_of_akin {α : Type} {f : Role → α} (hf : ∀ r r', Akin r r' → f r' = f r)
    (h : List.Forall₂ Akin roles roles') : roles'.map f = roles.map f := by
  induction h with
  | nil => rfl
  | cons hr _ ih => rw [List.map_cons, List.map_cons, hf _ _ hr, ih]

theorem isRoleId_iff_of_akin (h : List.Forall₂ Akin roles roles') {a : Value} :
    IsRoleId roles' a ↔ IsRoleId roles a := by
  rw [← contains_ids_iff, ← contains_ids_iff, map_eq_of_akin (fun _ _ => Akin.id) h]

theorem akin_startRoles (h : List.Forall₂ Akin roles roles') :
    List.Forall₂ Akin (startRoles roles) (startRoles roles') := by
  induction h with
  | nil => exact List.Forall₂.nil
  | @cons r r' roles roles' hr _ ih =>
    unfold startRoles at ih ⊢
    rw [List.filter_cons, List.filter_cons, hr.isStart]
    split
    · exact List.Forall₂.cons hr ih
    · exact ih

theorem exists_start_of_akin (h : List.Forall₂ Akin roles roles') {s : Role}
    (hs : startRoles roles = [s]) : ∃ s', startRoles roles' = [s'] ∧ Akin s s' := by
  have hstarts := akin_startRoles h
  rw [hs] at hstarts
  obtain ⟨s', rest, hakin, hrest, heq⟩ := List.forall₂_cons_left_iff.mp hstarts
  rw [List.forall₂_nil_left_iff.mp hrest] at heq
  exact ⟨s', heq, hakin⟩

theorem startIssues_of_akin (h : List.Forall₂ Akin roles roles') :
    startIssues roles' = startIssues roles := by
  have hstarts := akin_startRoles h
  have hnames := map_eq_of_akin (fun _ _ => Akin.name) hstarts
  unfold startIssues
  generalize startRoles roles = starts at hstarts hnames
  generalize startRoles roles' = starts' at hstarts hnames
  cases hstarts with
  | nil => rfl
  | cons _ hrest =>
    cases hrest with
    | nil => rfl
    | cons _ _ =>
      simp only [listedNames, hnames]

theorem bindingIssues_of_akin (h : List.Forall₂ Akin roles roles') :
    bindingIssues roles' registrations = bindingIssues roles registrations := by
  unfold bindingIssues
  congr 1
  induction h with
  | nil => rfl
  | @cons r r' roles roles' hr _ ih =>
    have hcond : (r'.isHuman && r'.institutionIds.isEmpty) =
        (r.isHuman && r.institutionIds.isEmpty) := by
      rw [Role.isHuman, Role.isHuman, hr.type, hr.institutions]
    rw [List.filter_cons, List.filter_cons, hcond]
    split
    · rw [List.map_cons, List.map_cons, hr.subject, ih]
    · exact ih

theorem reachabilityIssues_eq_nil {g : Adjacency Value} (hone : ¬ ∃ s, startRoles roles = [s]) :
    reachabilityIssues roles g = [] := by
  unfold reachabilityIssues
  split
  next s hs => exact absurd ⟨s, hs⟩ hone
  next => rfl

theorem graph_of_not_keyed (hk : ¬ Keyed roles) : graph roles = .error .wrongType := by
  rw [keyed_iff, ← List.all_eq_true, ← List.all_eq_true, ← Bool.and_eq_true] at hk
  exact if_neg hk

/-! ### More transitions -/

namespace Widens

theorem route (h : Widens roles roles') {start a : Value} (hroute : Route roles start a) :
    Route roles' start a := by
  induction hroute with
  | here hsame => exact Route.here hsame
  | step _ hpass hid ih =>
    exact ih.step (h.passes _ _ hpass) ((isRoleId_iff_of_akin h.akin).mpr hid)

theorem isEnd (h : Widens roles roles') {a : Value} (hend : IsEnd roles' a) : IsEnd roles a :=
  fun b hb => hend b (h.passes a b hb)

theorem keyed (h : Widens roles roles') (hk : Keyed roles') : Keyed roles := by
  -- An id, or a target, is the same as one of the second roles, though perhaps written otherwise.
  have hids : ∀ a, IsRoleId roles' a → a.isKey = true := by
    rintro a ⟨r, hr, hsame⟩
    rw [← Value.isKey_congr hsame]
    exact (hk r hr).1
  intro r hr
  refine ⟨hids r.id ((isRoleId_iff_of_akin h.akin).mpr (isRoleId_of_mem hr)), ?_⟩
  intro t ht
  have hpass : PassesTo roles r.id t.target := by
    obtain ⟨s, hs, hcode, hts⟩ := mem_outgoing_iff.mp ht
    exact ⟨r, hr, BEq.rfl, s, hs, hcode, t, hts, BEq.rfl⟩
  obtain ⟨r', hr', -, s', hs', hcode', t', hts', hsame⟩ := h.passes _ _ hpass
  rw [← Value.isKey_congr hsame]
  exact (hk r' hr').2 t' (mem_outgoing_iff.mpr ⟨s', hs', hcode', hts'⟩)

theorem hasEdges (h : Widens roles roles') (hedges : (graphOf roles).hasEdges = true) :
    (graphOf roles').hasEdges = true := by
  rw [hasEdges_graphOf_iff_passesTo] at hedges ⊢
  obtain ⟨a, b, hpass⟩ := hedges
  exact ⟨a, b, h.passes a b hpass⟩

theorem terminals_isEmpty (h : Widens roles roles')
    (hnone : (graphOf roles).terminals.isEmpty = true) :
    (graphOf roles').terminals.isEmpty = true := by
  rw [terminals_graphOf_isEmpty_iff] at hnone ⊢
  rintro ⟨e', he', hend'⟩
  obtain ⟨e, he, hsame⟩ := (isRoleId_iff_of_akin h.akin).mp (isRoleId_of_mem he')
  refine hnone ⟨e, he, ?_⟩
  intro b hpass
  exact h.isEnd hend' b (hpass.congr_left hsame)

theorem unreached_sublist (h : Widens roles roles') {s s' : Role} (hs : s'.id = s.id)
    {α : Type} {f : Role → α} (hf : ∀ r r', Akin r r' → f r' = f r) :
    ((unreached roles' s').map f).Sublist ((unreached roles s).map f) := by
  apply sublist_map_filter
  refine (forall₂_mem h.akin).imp ?_
  rintro r r' ⟨hr, hr', hakin⟩
  refine ⟨hf r r' hakin, ?_⟩
  -- The order in which the searches visit ids is of no account: each finds just where routes lead.
  rw [Bool.not_eq_true', Bool.not_eq_true', ← Bool.not_eq_true, ← Bool.not_eq_true, hs,
    contains_reachableFrom_iff_route (isRoleId_of_mem hr),
    contains_reachableFrom_iff_route (isRoleId_of_mem hr'), hakin.id]
  exact fun hout hroute => hout (h.route hroute)

theorem unentered_sublist (h : Widens roles roles') {α : Type} {f : Role → α}
    (hf : ∀ r r', Akin r r' → f r' = f r) :
    ((unentered roles').map f).Sublist ((unentered roles).map f) := by
  apply sublist_map_filter
  refine (forall₂_mem h.akin).imp ?_
  rintro r r' ⟨hr, hr', hakin⟩
  refine ⟨hf r r' hakin, ?_⟩
  rw [Bool.and_eq_true, Bool.and_eq_true, hakin.isStart, sources_graphOf_isEmpty_iff hr,
    sources_graphOf_isEmpty_iff hr', hakin.id]
  rintro ⟨hstart, hnone⟩
  exact ⟨hstart, fun a hpass => hnone a (h.passes a r.id hpass)⟩

end Widens

theorem noEndRole_mem_iff {r : Review} {s : Role} (hs : startRoles roles = [s])
    (h : review roles registrations = .ok r) :
    Issue.noEndRole ∈ r.issues ↔
      (graphOf roles).hasEdges = true ∧ (graphOf roles).terminals.isEmpty = true := by
  obtain ⟨-, start, hstart, rfl⟩ := (review_eq_ok_iff (ne_nil_of_startRoles hs)).mp h
  rw [startIssues, hs] at hstart
  cases hstart
  rw [reachabilityIssues_of_start hs]
  simp [flowIssues, orphanIssues, bindingIssues]

/-- Where roles pass on more, none becomes unreachable and none an orphan, unless it was too early
to say; and if all passed on before, they do so still. -/
theorem review_of_more_transitions (registrations registrations' : List Registration)
    (hakin : List.Forall₂ Akin roles roles')
    (hpasses : ∀ a b, PassesTo roles a b → PassesTo roles' a b) {s : Role}
    (hs : startRoles roles = [s]) (hk : Keyed roles') :
    ∃ r r', review roles registrations = .ok r ∧ review roles' registrations' = .ok r' ∧
      (rolesUnder "UNREACHABLE_ROLE" r'.issues).Sublist
        (rolesUnder "UNREACHABLE_ROLE" r.issues) ∧
      ((∃ a b, PassesTo roles a b) →
        (rolesUnder "ORPHAN_ROLE" r'.issues).Sublist (rolesUnder "ORPHAN_ROLE" r.issues)) ∧
      (Issue.noEndRole ∈ r.issues → Issue.noEndRole ∈ r'.issues) := by
  have h : Widens roles roles' := ⟨hakin, hpasses⟩
  obtain ⟨s', hs', hstart⟩ := exists_start_of_akin hakin hs
  obtain ⟨r, hr⟩ := exists_review_of_start registrations hs (h.keyed hk)
  obtain ⟨r', hr'⟩ := exists_review_of_start registrations' hs' hk
  refine ⟨r, r', hr, hr', ?_, ?_, ?_⟩
  · rw [rolesUnder_unreachable hs hr, rolesUnder_unreachable hs' hr']
    exact h.unreached_sublist hstart.id fun _ _ => Akin.subject
  · intro hpass
    have hedges := hasEdges_graphOf_iff_passesTo.mpr hpass
    rw [rolesUnder_orphan hs hr, rolesUnder_orphan hs' hr', if_pos hedges,
      if_pos (h.hasEdges hedges)]
    exact h.unentered_sublist fun _ _ => Akin.subject
  · rw [noEndRole_mem_iff hs hr, noEndRole_mem_iff hs' hr']
    exact fun hnone => ⟨h.hasEdges hnone.1, h.terminals_isEmpty hnone.2⟩

theorem passesTo_of_edges (h : edges roles ⊆ edges roles') {a b : Value}
    (hpass : PassesTo roles a b) : PassesTo roles' a b := by
  rw [passesTo_iff_exists_edge] at hpass ⊢
  obtain ⟨e, he, hends⟩ := hpass
  exact ⟨e, h he, hends⟩

/-- A desk and a clerk pass files to each other, and an archive passes them back to the desk. What
the clerk passes on besides is left open. -/
def closedRound (more : List Transition) : List Role :=
  let back : Transition := ⟨"1", .text "desk", .null, 0⟩
  [⟨.text "desk", .text "Desk", .bot, true,
      [⟨"1", .passed, [⟨"2", .text "clerk", .null, 0⟩]⟩], []⟩,
    ⟨.text "clerk", .text "Clerk", .bot, false, [⟨"2", .returned, back :: more⟩], []⟩,
    ⟨.text "archive", .text "Archive", .bot, false, [⟨"3", .passed, [back]⟩], []⟩]

theorem review_of_more_transitions_closedRound :
    let before := closedRound []
    let after := closedRound [⟨"3", .text "archive", .null, 1⟩]
    List.Forall₂ Akin before after ∧ (∀ a b, PassesTo before a b → PassesTo after a b) ∧
      (∃ s, startRoles before = [s]) ∧ Keyed after ∧
      ∃ r r', review before [] = .ok r ∧ review after [] = .ok r' ∧
        (rolesUnder "UNREACHABLE_ROLE" r'.issues).Sublist
          (rolesUnder "UNREACHABLE_ROLE" r.issues) ∧
        ((∃ a b, PassesTo before a b) →
          (rolesUnder "ORPHAN_ROLE" r'.issues).Sublist (rolesUnder "ORPHAN_ROLE" r.issues)) ∧
        (Issue.noEndRole ∈ r.issues → Issue.noEndRole ∈ r'.issues) ∧
        r.issues.map Issue.code = ["NO_END_ROLE", "UNREACHABLE_ROLE", "ORPHAN_ROLE"] ∧
        r'.issues.map Issue.code = ["NO_END_ROLE"] := by
  intro before after
  have hakin : List.Forall₂ Akin before after :=
    .cons ⟨rfl, rfl, rfl, rfl, rfl⟩ (.cons ⟨rfl, rfl, rfl, rfl, rfl⟩
      (.cons ⟨rfl, rfl, rfl, rfl, rfl⟩ .nil))
  have hedges : edges before ⊆ edges after := by
    simp [before, after, closedRound, edges, Role.outgoing, StatusCode.originatesTransitions]
  have hpasses : ∀ a b, PassesTo before a b → PassesTo after a b :=
    fun _ _ => passesTo_of_edges hedges
  obtain ⟨s, hs⟩ : ∃ s, startRoles before = [s] := ⟨_, rfl⟩
  have hk : Keyed after := by
    unfold Keyed
    decide
  obtain ⟨r, r', hr, hr', hreach, horphans, hend⟩ :=
    review_of_more_transitions [] [] hakin hpasses hs hk
  have hcodes : (review before []).toOption.map (fun r => r.issues.map Issue.code) =
      some ["NO_END_ROLE", "UNREACHABLE_ROLE", "ORPHAN_ROLE"] := by decide
  have hcodes' : (review after []).toOption.map (fun r => r.issues.map Issue.code) =
      some ["NO_END_ROLE"] := by decide
  rw [hr] at hcodes
  rw [hr'] at hcodes'
  exact ⟨hakin, hpasses, ⟨s, hs⟩, hk, r, r', hr, hr', hreach, horphans, hend,
    Option.some.inj hcodes, Option.some.inj hcodes'⟩

/-! ### The same transitions -/

section

variable (h : Widens roles roles') (h' : Widens roles' roles)
include h h'

theorem hasEdges_eq_of_widens : (graphOf roles').hasEdges = (graphOf roles).hasEdges := by
  rw [Bool.eq_iff_iff]
  exact ⟨h'.hasEdges, h.hasEdges⟩

theorem flowIssues_of_widens :
    flowIssues roles' (graphOf roles') = flowIssues roles (graphOf roles) := by
  have hterminals : (graphOf roles').terminals.isEmpty = (graphOf roles).terminals.isEmpty := by
    rw [Bool.eq_iff_iff]
    exact ⟨h'.terminals_isEmpty, h.terminals_isEmpty⟩
  rw [flowIssues, flowIssues, hasEdges_eq_of_widens h h', hterminals, h.akin.length_eq]

theorem reachabilityIssues_of_widens :
    reachabilityIssues roles' (graphOf roles') = reachabilityIssues roles (graphOf roles) := by
  by_cases hone : ∃ s, startRoles roles = [s]
  · obtain ⟨s, hs⟩ := hone
    obtain ⟨s', hs', hstart⟩ := exists_start_of_akin h.akin hs
    rw [reachabilityIssues_of_start hs, reachabilityIssues_of_start hs']
    -- Each list of issues is a sublist of the other.
    exact (h.unreached_sublist hstart.id fun _ _ hr => by rw [hr.subject]).antisymm
      (h'.unreached_sublist hstart.id.symm fun _ _ hr => by rw [hr.subject])
  · have hone' : ¬ ∃ s', startRoles roles' = [s'] := by
      rintro ⟨s', hs'⟩
      obtain ⟨s, hs, -⟩ := exists_start_of_akin h'.akin hs'
      exact hone ⟨s, hs⟩
    rw [reachabilityIssues_eq_nil hone, reachabilityIssues_eq_nil hone']

theorem orphanIssues_of_widens :
    orphanIssues roles' (graphOf roles') = orphanIssues roles (graphOf roles) := by
  unfold orphanIssues
  rw [hasEdges_eq_of_widens h h']
  split
  · exact (h.unentered_sublist fun _ _ hr => by rw [hr.subject]).antisymm
      (h'.unentered_sublist fun _ _ hr => by rw [hr.subject])
  · rfl

/-- Issues and refusals are the same. -/
theorem review_of_widens (registrations : List Registration) :
    review roles' registrations = review roles registrations := by
  have hempty : roles'.isEmpty = roles.isEmpty := by
    cases h.akin <;> rfl
  unfold review
  rw [hempty, startIssues_of_akin h.akin, bindingIssues_of_akin h.akin]
  congr 1
  refine bind_congr fun start => ?_
  -- Where ids may not be keys, neither graph is built.
  by_cases hk : Keyed roles
  · rw [graph_eq_ok_iff.mpr ⟨hk, rfl⟩, graph_eq_ok_iff.mpr ⟨h'.keyed hk, rfl⟩]
    change Except.ok _ = Except.ok _
    rw [flowIssues_of_widens h h', reachabilityIssues_of_widens h h', orphanIssues_of_widens h h']
  · rw [graph_of_not_keyed hk, graph_of_not_keyed fun hk' => hk (h.keyed hk')]
    rfl

end

/-! ### Ways to arrange the same transitions -/

/-- Some transition that can be taken has the target. -/
def Offers (statuses : List Status) (b : Value) : Prop :=
  ∃ s ∈ statuses, s.code ≠ .pending ∧ ∃ t ∈ s.transitions, (t.target == b) = true

/-- One change of the statuses of a role that leaves where it passes on to as it is. What is changed
stands first, as any order can be had before and after. -/
inductive Rearranged : List Status → List Status → Prop
  | reorder {statuses statuses' : List Status} :
    statuses.Perm statuses' → Rearranged statuses statuses'
  | reorderTransitions (id : String) (code : StatusCode) {ts us : List Transition}
    (rest : List Status) : ts.Perm us → Rearranged (⟨id, code, ts⟩ :: rest) (⟨id, code, us⟩ :: rest)
  | repeated (s : Status) (rest : List Status) : Rearranged (s :: rest) (s :: s :: rest)
  | repeatedTransition (id : String) (code : StatusCode) (t : Transition) (ts : List Transition)
    (rest : List Status) :
    Rearranged (⟨id, code, t :: ts⟩ :: rest) (⟨id, code, t :: t :: ts⟩ :: rest)
  | divided (id id' : String) (code code' : StatusCode) (ts us : List Transition)
    (rest : List Status) : code ≠ .pending → code' ≠ .pending →
    Rearranged (⟨id, code, ts ++ us⟩ :: rest) (⟨id, code, ts⟩ :: ⟨id', code', us⟩ :: rest)
  | renamed (id id' : String) (code : StatusCode) (ts : List Transition) (rest : List Status) :
    Rearranged (⟨id, code, ts⟩ :: rest) (⟨id', code, ts⟩ :: rest)
  | reworded (id : String) (code : StatusCode) {t t' : Transition} (ts : List Transition)
    (rest : List Status) : t'.target = t.target →
    Rearranged (⟨id, code, t :: ts⟩ :: rest) (⟨id, code, t' :: ts⟩ :: rest)
  | pending {s : Status} (rest : List Status) : s.code = .pending → Rearranged (s :: rest) rest

theorem offers_cons {s : Status} {rest : List Status} {b : Value} :
    Offers (s :: rest) b ↔
      (s.code ≠ .pending ∧ ∃ t ∈ s.transitions, (t.target == b) = true) ∨ Offers rest b := by
  simp [Offers]

theorem Rearranged.offers_iff {statuses statuses' : List Status}
    (h : Rearranged statuses statuses') (b : Value) : Offers statuses b ↔ Offers statuses' b := by
  cases h with
  | reorder hperm => simp only [Offers, hperm.mem_iff]
  | reorderTransitions id code rest hperm => simp only [offers_cons, hperm.mem_iff]
  | repeated s rest => simp only [offers_cons, ← or_assoc, or_self]
  | repeatedTransition id code t ts rest => simp [offers_cons]
  | divided id id' code code' ts us rest hcode hcode' =>
    simp only [offers_cons, List.mem_append, or_and_right, exists_or, hcode, hcode', ne_eq,
      not_false_eq_true, true_and, or_assoc]
  | renamed id id' code ts rest => simp only [offers_cons]
  | reworded id code ts rest htarget => simp [offers_cons, htarget]
  | pending rest hcode => simp [offers_cons, hcode]

theorem offers_iff_of_rearranged {statuses statuses' : List Status}
    (h : Relation.EqvGen Rearranged statuses statuses') (b : Value) :
    Offers statuses b ↔ Offers statuses' b := by
  induction h with
  | rel _ _ h => exact h.offers_iff b
  | refl _ => exact Iff.rfl
  | symm _ _ _ ih => exact ih.symm
  | trans _ _ _ _ _ ih ih' => exact ih.trans ih'

theorem passesTo_cons {r : Role} {a b : Value} :
    PassesTo (r :: roles) a b ↔ (r.id == a) = true ∧ Offers r.statuses b ∨ PassesTo roles a b := by
  simp [PassesTo, Offers]

theorem passesTo_iff_of_rearranged (hakin : List.Forall₂ Akin roles roles')
    (h : List.Forall₂ (fun r r' => Relation.EqvGen Rearranged r.statuses r'.statuses) roles roles')
    (a b : Value) : PassesTo roles a b ↔ PassesTo roles' a b := by
  induction h with
  | nil => exact Iff.rfl
  | cons hr _ ih =>
    obtain ⟨hfirst, hrest⟩ := List.forall₂_cons.mp hakin
    rw [passesTo_cons, passesTo_cons, hfirst.id, offers_iff_of_rearranged hr, ih hrest]

/-- A review depends on the transitions of roles only by the targets that each id passes on to. So
it stays the same, issue by issue, whichever way the same targets are arranged in transitions and
statuses. It is made where ids may be keys and starts can be listed. -/
theorem review_of_same_targets (registrations : List Registration)
    (hakin : List.Forall₂ Akin roles roles') :
    ((∀ a b, PassesTo roles a b ↔ PassesTo roles' a b) →
      review roles' registrations = review roles registrations) ∧
    (List.Forall₂ (fun r r' => Relation.EqvGen Rearranged r.statuses r'.statuses) roles roles' →
      review roles' registrations = review roles registrations) ∧
    (Keyed roles → ListableStarts roles → ∃ r, review roles registrations = .ok r) := by
  have hsame : (∀ a b, PassesTo roles a b ↔ PassesTo roles' a b) →
      review roles' registrations = review roles registrations := by
    intro hpasses
    exact review_of_widens ⟨hakin, fun a b => (hpasses a b).mp⟩
      ⟨akin_symm hakin, fun a b => (hpasses a b).mpr⟩ registrations
  refine ⟨hsame, fun h => hsame (passesTo_iff_of_rearranged hakin h), ?_⟩
  intro hk hn
  by_cases hne : roles = []
  · rw [hne]
    exact ⟨_, rfl⟩
  · exact (review_isOk_iff registrations hne).mpr ⟨hk, hn⟩

/-- The roles of `detour`, where the office passes on by two statuses, to the board twice, and the
clerk has no pending status. -/
def rearrangedDetour : List Role :=
  [⟨.text "a", .text "Office", .bot, true, [⟨"5", .rejected, [⟨"2", .text "gone", .null, 1⟩]⟩,
      ⟨"1", .passed, [⟨"6", .text "b", .text "urgent", 3⟩, ⟨"1", .text "b", .null, 0⟩]⟩], []⟩,
    ⟨.text "b", .text "Board", .bot, false, [⟨"2", .returned, [⟨"3", .text "a", .null, 0⟩]⟩], []⟩,
    ⟨.text "c", .text "Clerk", .user, false, [], []⟩]

theorem rearranged_detour :
    List.Forall₂ (fun r r' => Relation.EqvGen Rearranged r.statuses r'.statuses)
      detour rearrangedDetour := by
  let toBoard : Transition := ⟨"1", .text "b", .null, 0⟩
  let urgent : Transition := ⟨"6", .text "b", .text "urgent", 3⟩
  let toGone : Transition := ⟨"2", .text "gone", .null, 1⟩
  have hdivided : Rearranged [⟨"1", .passed, [toBoard, toGone]⟩]
      [⟨"1", .passed, [toBoard]⟩, ⟨"5", .rejected, [toGone]⟩] :=
    .divided "1" "5" .passed .rejected [toBoard] [toGone] [] (by decide) (by decide)
  have hrepeated : Rearranged [⟨"1", .passed, [toBoard]⟩, ⟨"5", .rejected, [toGone]⟩]
      [⟨"1", .passed, [toBoard, toBoard]⟩, ⟨"5", .rejected, [toGone]⟩] :=
    .repeatedTransition "1" .passed toBoard [] _
  have hreworded : Rearranged [⟨"1", .passed, [toBoard, toBoard]⟩, ⟨"5", .rejected, [toGone]⟩]
      [⟨"1", .passed, [urgent, toBoard]⟩, ⟨"5", .rejected, [toGone]⟩] :=
    .reworded "1" .passed [toBoard] _ rfl
  have hreordered : Rearranged [⟨"1", .passed, [urgent, toBoard]⟩, ⟨"5", .rejected, [toGone]⟩]
      [⟨"5", .rejected, [toGone]⟩, ⟨"1", .passed, [urgent, toBoard]⟩] :=
    .reorder (List.Perm.swap _ _ _)
  have hoffice : Relation.EqvGen Rearranged [⟨"1", .passed, [toBoard, toGone]⟩]
      [⟨"5", .rejected, [toGone]⟩, ⟨"1", .passed, [urgent, toBoard]⟩] :=
    .trans _ _ _ (.rel _ _ hdivided) (.trans _ _ _ (.rel _ _ hrepeated)
      (.trans _ _ _ (.rel _ _ hreworded) (.rel _ _ hreordered)))
  exact .cons hoffice (.cons (.refl _) (.cons (.rel _ _ (.pending [] rfl)) .nil))

theorem review_of_same_targets_detour :
    List.Forall₂ Akin detour rearrangedDetour ∧
      (∀ a b, PassesTo detour a b ↔ PassesTo rearrangedDetour a b) ∧
      List.Forall₂ (fun r r' => Relation.EqvGen Rearranged r.statuses r'.statuses)
        detour rearrangedDetour ∧
      Keyed detour ∧ ListableStarts detour ∧
      review rearrangedDetour [] = review detour [] ∧
      ∃ r, review detour [] = .ok r ∧ review rearrangedDetour [] = .ok r ∧
        r.issues.map Issue.code =
          ["UNREACHABLE_ROLE", "ORPHAN_ROLE", "UNASSIGNED_INSTITUTION"] := by
  have hakin : List.Forall₂ Akin detour rearrangedDetour :=
    .cons ⟨rfl, rfl, rfl, rfl, rfl⟩ (.cons ⟨rfl, rfl, rfl, rfl, rfl⟩
      (.cons ⟨rfl, rfl, rfl, rfl, rfl⟩ .nil))
  have hpasses := passesTo_iff_of_rearranged hakin rearranged_detour
  have hk : Keyed detour := by
    unfold Keyed
    decide
  have hn : ListableStarts detour := fun h => absurd h (by decide)
  obtain ⟨hsame, hrearranged, hmade⟩ := review_of_same_targets [] hakin
  obtain ⟨r, hr⟩ := hmade hk hn
  have hcodes : (review detour []).toOption.map (fun r => r.issues.map Issue.code) =
      some ["UNREACHABLE_ROLE", "ORPHAN_ROLE", "UNASSIGNED_INSTITUTION"] := by decide
  rw [hr] at hcodes
  exact ⟨hakin, hpasses, rearranged_detour, hk, hn, hsame hpasses, r, hr,
    (hrearranged rearranged_detour).trans hr, Option.some.inj hcodes⟩

end ServiceBlueprint.Workflow
