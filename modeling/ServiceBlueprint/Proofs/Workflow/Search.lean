import Mathlib.Logic.Relation
import ServiceBlueprint.Proofs.Table
import ServiceBlueprint.Workflow.Adjacency

/-!
# What a search finds

The breadth-first search of an adjacency finds exactly the nodes on walks from its start, whatever
cycles, repeated neighbours and unknown nodes there are. Its fuel is the number of edges and one:
every visit takes a node from the queue, and every node that enters the queue uses up a target of
some edge that had not been seen.
-/

namespace ServiceBlueprint.Adjacency

variable {κ : Type} [BEq κ]

/-- There is an edge from one node to another. -/
def Linked (g : Adjacency κ) (a b : κ) : Prop := b ∈ g.targets a

theorem reachable_iff_reflTransGen {g : Adjacency κ} {start node : κ} :
    g.Reachable start node ↔ Relation.ReflTransGen g.Linked start node := by
  constructor
  · intro h
    induction h with
    | refl => exact Relation.ReflTransGen.refl
    | step _ hm ih => exact ih.tail hm
  · intro h
    induction h with
    | refl => exact Reachable.refl
    | tail _ hm ih => exact ih.step hm

/-! ### One visit -/

theorem mem_of_mem_unseen {seen xs : List κ} {x : κ} (h : x ∈ unseen seen xs) : x ∈ xs := by
  induction xs generalizing seen with
  | nil => exact h
  | cons y xs ih =>
    unfold unseen at h
    by_cases hy : seen.contains y
    · rw [if_pos hy] at h
      exact List.mem_cons_of_mem _ (ih h)
    · rw [if_neg hy] at h
      rcases List.mem_cons.mp h with rfl | h
      · exact List.mem_cons_self
      · exact List.mem_cons_of_mem _ (ih h)

theorem contains_append_of_left {xs : List κ} {x : κ} (h : xs.contains x = true) (ys : List κ) :
    (xs ++ ys).contains x = true := by
  simp only [List.contains_append, h, Bool.true_or]

/-- The targets of edges that have not been seen, counted as often as edges lead to them. -/
def pending (g : Adjacency κ) (seen : List κ) : Nat :=
  (g.outgoing.flatMap (·.2)).countP fun x => !seen.contains x

theorem pending_le_edgeCount (g : Adjacency κ) (seen : List κ) : g.pending seen ≤ g.edgeCount :=
  List.countP_le_length

theorem countP_unseen_mono (seen more xs : List κ) :
    xs.countP (fun x => !(seen ++ more).contains x) ≤ xs.countP fun x => !seen.contains x := by
  apply List.countP_mono_left
  intro x _ hx
  simp only [List.contains_append, Bool.not_or, Bool.and_eq_true] at hx
  exact hx.1

/-- The targets of a node stand together among the targets of all edges. -/
theorem exists_flatMap_eq (g : Adjacency κ) (node : κ) :
    ∃ before after, g.outgoing.flatMap (·.2) = before ++ g.targets node ++ after := by
  unfold targets
  cases hf : g.outgoing.find? node with
  | none => exact ⟨[], g.outgoing.flatMap (·.2), rfl⟩
  | some v =>
    obtain ⟨e, hm, -, hv⟩ := Table.mem_of_find? hf
    obtain ⟨s, t, hst⟩ := List.append_of_mem hm
    refine ⟨s.flatMap (·.2), t.flatMap (·.2), ?_⟩
    rw [hst, List.flatMap_append, List.flatMap_cons, hv, List.append_assoc]
    rfl

/-! ### What is found is reachable -/

theorem mem_visit_of_mem (g : Adjacency κ) (fuel : Nat) {seen queue : List κ} {x : κ}
    (h : x ∈ seen) : x ∈ g.visit fuel seen queue := by
  induction fuel generalizing seen queue with
  | zero => exact h
  | succ fuel ih =>
    cases queue with
    | nil => exact h
    | cons node queue => exact ih (List.mem_append_left _ h)

theorem reachable_of_mem_visit (g : Adjacency κ) (start : κ) (fuel : Nat) {seen queue : List κ}
    (hseen : ∀ x ∈ seen, g.Reachable start x) (hqueue : ∀ x ∈ queue, g.Reachable start x) :
    ∀ x ∈ g.visit fuel seen queue, g.Reachable start x := by
  induction fuel generalizing seen queue with
  | zero => exact hseen
  | succ fuel ih =>
    cases queue with
    | nil => exact hseen
    | cons node queue =>
      have hnode := hqueue node List.mem_cons_self
      have hfresh : ∀ x ∈ unseen seen (g.targets node), g.Reachable start x :=
        fun x hx => hnode.step (mem_of_mem_unseen hx)
      apply ih
      · intro x hx
        rcases List.mem_append.mp hx with hx | hx
        · exact hseen x hx
        · exact hfresh x hx
      · intro x hx
        rcases List.mem_append.mp hx with hx | hx
        · exact hqueue x (List.mem_cons_of_mem _ hx)
        · exact hfresh x hx

theorem reachable_of_mem_reachableFrom {g : Adjacency κ} {start x : κ}
    (h : x ∈ g.reachableFrom start) : g.Reachable start x := by
  have hstart : ∀ y ∈ [start], g.Reachable start y := by
    intro y hy
    rw [List.mem_singleton.mp hy]
    exact Reachable.refl
  exact g.reachable_of_mem_visit start _ hstart hstart x h

/-! ### What is reachable is found -/

variable [EquivBEq κ]

theorem contains_of_mem {xs : List κ} {x : κ} (h : x ∈ xs) : xs.contains x = true :=
  List.contains_iff_exists_mem_beq.mpr ⟨x, h, BEq.rfl⟩

theorem contains_unseen {seen xs : List κ} {x : κ} (h : x ∈ xs) :
    (seen ++ unseen seen xs).contains x = true := by
  induction xs generalizing seen with
  | nil => cases h
  | cons y xs ih =>
    unfold unseen
    by_cases hy : seen.contains y
    · rw [if_pos hy]
      rcases List.mem_cons.mp h with rfl | h
      · exact contains_append_of_left hy _
      · exact ih h
    · rw [if_neg hy]
      rcases List.mem_cons.mp h with rfl | h
      · exact contains_of_mem (by simp)
      · have hrest : (seen ++ [y] ++ unseen (seen ++ [y]) xs).contains x = true := ih h
        rwa [List.append_assoc] at hrest

theorem length_unseen_add_countP_le (seen xs : List κ) :
    (unseen seen xs).length + xs.countP (fun x => !(seen ++ unseen seen xs).contains x) ≤
      xs.countP fun x => !seen.contains x := by
  induction xs generalizing seen with
  | nil => simp [unseen]
  | cons y xs ih =>
    unfold unseen
    by_cases hy : seen.contains y
    · have hmore : (seen ++ unseen seen xs).contains y = true := contains_append_of_left hy _
      rw [if_pos hy, List.countP_cons, List.countP_cons, hy, hmore]
      simpa using ih seen
    · have hin : (seen ++ y :: unseen (seen ++ [y]) xs).contains y = true :=
        contains_of_mem (by simp)
      have hstep := ih (seen ++ [y])
      have hmono := countP_unseen_mono seen [y] xs
      rw [List.append_assoc, List.singleton_append] at hstep
      rw [if_neg hy, List.countP_cons, List.countP_cons, hin, Bool.eq_false_iff.mpr hy]
      simp only [Bool.not_true, Bool.false_eq_true, if_false, Bool.not_false, if_true,
        List.length_cons, Nat.add_zero]
      omega

theorem targets_congr (g : Adjacency κ) {a b : κ} (h : (a == b) = true) :
    g.targets a = g.targets b := by
  unfold targets
  rw [Table.find?_congr _ h]

/-- Every node that enters the queue uses up a target that had not been seen. -/
theorem length_add_pending_le (g : Adjacency κ) (seen : List κ) (node : κ) :
    (unseen seen (g.targets node)).length + g.pending (seen ++ unseen seen (g.targets node)) ≤
      g.pending seen := by
  obtain ⟨before, after, hsplit⟩ := g.exists_flatMap_eq node
  have hnode := length_unseen_add_countP_le seen (g.targets node)
  have hbefore := countP_unseen_mono seen (unseen seen (g.targets node)) before
  have hafter := countP_unseen_mono seen (unseen seen (g.targets node)) after
  unfold pending
  simp only [hsplit, List.countP_append]
  omega

/-- With fuel for the queue and for all targets to come, what was found is closed under edges. The
invariant is that a node seen is still in the queue or all its targets are seen. -/
theorem visit_closed (g : Adjacency κ) (fuel : Nat) {seen queue : List κ}
    (hfuel : queue.length + g.pending seen ≤ fuel)
    (hinv : ∀ x ∈ seen, x ∈ queue ∨ ∀ y ∈ g.targets x, seen.contains y = true) :
    ∀ x ∈ g.visit fuel seen queue, ∀ y ∈ g.targets x,
      (g.visit fuel seen queue).contains y = true := by
  induction fuel generalizing seen queue with
  | zero =>
    have hempty : queue = [] := List.eq_nil_of_length_eq_zero (by omega)
    subst hempty
    intro x hx
    exact (hinv x hx).resolve_left List.not_mem_nil
  | succ fuel ih =>
    cases queue with
    | nil =>
      intro x hx
      exact (hinv x hx).resolve_left List.not_mem_nil
    | cons node queue =>
      apply ih
      · have hle := g.length_add_pending_le seen node
        simp only [List.length_cons, List.length_append] at hfuel ⊢
        omega
      · intro x hx
        rcases List.mem_append.mp hx with hx | hx
        · rcases hinv x hx with hq | hall
          · rcases List.mem_cons.mp hq with rfl | hq
            · exact Or.inr fun y hy => contains_unseen hy
            · exact Or.inl (List.mem_append_left _ hq)
          · exact Or.inr fun y hy => contains_append_of_left (hall y hy) _
        · exact Or.inl (List.mem_append_right _ hx)

theorem contains_reachableFrom_of_reachable {g : Adjacency κ} {start x : κ}
    (h : g.Reachable start x) : (g.reachableFrom start).contains x = true := by
  induction h with
  | refl => exact contains_of_mem (g.mem_visit_of_mem _ (List.mem_singleton.mpr rfl))
  | step _ htarget ih =>
    obtain ⟨node', hmem, hsame⟩ := List.contains_iff_exists_mem_beq.mp ih
    rw [g.targets_congr hsame] at htarget
    refine g.visit_closed _ ?_ (fun y hy => Or.inl hy) node' hmem _ htarget
    have hle := g.pending_le_edgeCount [start]
    simp only [List.length_singleton]
    omega

/-- A search finds exactly the nodes that are the same as one on a walk from the start. -/
theorem contains_reachableFrom_iff {g : Adjacency κ} {start x : κ} :
    (g.reachableFrom start).contains x = true ↔
      ∃ y, g.Reachable start y ∧ (x == y) = true := by
  constructor
  · intro h
    obtain ⟨y, hy, hxy⟩ := List.contains_iff_exists_mem_beq.mp h
    exact ⟨y, reachable_of_mem_reachableFrom hy, hxy⟩
  · rintro ⟨y, hy, hxy⟩
    obtain ⟨z, hz, hyz⟩ :=
      List.contains_iff_exists_mem_beq.mp (contains_reachableFrom_of_reachable hy)
    exact List.contains_iff_exists_mem_beq.mpr ⟨z, hz, BEq.trans hxy hyz⟩

end ServiceBlueprint.Adjacency
