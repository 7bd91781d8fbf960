import ServiceBlueprint.Gap.Rule
import ServiceBlueprint.Proofs.Table

/-!
# Merging sets of rules

Rules are taken one by one, and each is added at the end unless there is one of its name. What a
run of additions does to rules that are there already is told by what it does to none: the new names
come behind. So merging keeps the first rule of each name, and it does not matter which of the sets
have been merged before.
-/

namespace ServiceBlueprint.Gap

variable {α : Type} [Named α] {kept rules : List α} {r : α}

/-- A rule at the end, unless there is one of its name. -/
def addNamed (kept : List α) (r : α) : List α :=
  if kept.any (Named.name · == Named.name r) then kept else kept ++ [r]

theorem mergeRules_eq (sets : List (List α)) : mergeRules sets = sets.flatten.foldl addNamed [] :=
  rfl

theorem addNamed_of_any (h : kept.any (Named.name · == Named.name r) = true) :
    addNamed kept r = kept :=
  if_pos h

theorem addNamed_of_not_any (h : ¬ kept.any (Named.name · == Named.name r) = true) :
    addNamed kept r = kept ++ [r] :=
  if_neg h

/-! ### What one addition and a run of them do -/

theorem addNamed_sublist (kept : List α) (r : α) : (addNamed kept r).Sublist (kept ++ [r]) := by
  by_cases h : kept.any (Named.name · == Named.name r) = true
  · rw [addNamed_of_any h]
    exact List.sublist_append_left kept [r]
  · rw [addNamed_of_not_any h]

theorem foldl_addNamed_sublist (kept rules : List α) :
    (rules.foldl addNamed kept).Sublist (kept ++ rules) := by
  induction rules generalizing kept with
  | nil => rw [List.foldl_nil, List.append_nil]
  | cons r rules ih =>
    have hsplit : kept ++ r :: rules = kept ++ [r] ++ rules := by simp
    rw [List.foldl_cons, hsplit]
    exact (ih (addNamed kept r)).trans ((addNamed_sublist kept r).append_right rules)

theorem names_addNamed (kept : List α) (r : α) :
    (addNamed kept r).map Named.name = addUnlessThere (kept.map Named.name) (Named.name r) := by
  have hthere : (kept.map Named.name).contains (Named.name r) =
      kept.any (Named.name · == Named.name r) := by
    rw [← List.any_beq, List.any_map]
    exact congrArg kept.any (funext fun k => BEq.comm)
  unfold addUnlessThere
  rw [hthere]
  by_cases h : kept.any (Named.name · == Named.name r) = true
  · rw [addNamed_of_any h, if_pos h]
  · rw [addNamed_of_not_any h, if_neg h, List.map_append]
    rfl

theorem names_foldl_addNamed (kept rules : List α) :
    (rules.foldl addNamed kept).map Named.name =
      (rules.map Named.name).foldl addUnlessThere (kept.map Named.name) := by
  induction rules generalizing kept with
  | nil => rfl
  | cons r rules ih => rw [List.foldl_cons, ih, names_addNamed, List.map_cons, List.foldl_cons]

theorem find?_addNamed (kept : List α) (r : α) (n : String) :
    (addNamed kept r).find? (Named.name · == n) = (kept ++ [r]).find? (Named.name · == n) := by
  by_cases h : kept.any (Named.name · == Named.name r) = true
  · rw [addNamed_of_any h, List.find?_append]
    by_cases hn : Named.name r = n
    · obtain ⟨k, hk, hkr⟩ := List.any_eq_true.mp h
      have hfound : (kept.find? (Named.name · == n)).isSome = true :=
        List.find?_isSome.mpr ⟨k, hk, hn ▸ hkr⟩
      obtain ⟨first, hfirst⟩ := Option.isSome_iff_exists.mp hfound
      rw [hfirst, Option.some_or]
    · have hnone : [r].find? (Named.name · == n) = none := by simp [hn]
      rw [hnone, Option.or_none]
  · rw [addNamed_of_not_any h]

/-- A run of additions leaves the first rule of each name. -/
theorem find?_foldl_addNamed (kept rules : List α) (n : String) :
    (rules.foldl addNamed kept).find? (Named.name · == n) =
      (kept ++ rules).find? (Named.name · == n) := by
  induction rules generalizing kept with
  | nil => rw [List.foldl_nil, List.append_nil]
  | cons r rules ih =>
    rw [List.foldl_cons, ih, List.find?_append, find?_addNamed, ← List.find?_append,
      List.append_assoc, List.singleton_append]

theorem any_foldl_addNamed (kept rules : List α) (n : String) :
    (rules.foldl addNamed kept).any (Named.name · == n) =
      (kept ++ rules).any (Named.name · == n) := by
  rw [← List.isSome_find?, find?_foldl_addNamed, List.isSome_find?]

/-- Rules whose names are there already add nothing. -/
theorem foldl_addNamed_of_any (h : ∀ r ∈ rules, kept.any (Named.name · == Named.name r) = true) :
    rules.foldl addNamed kept = kept := by
  induction rules with
  | nil => rfl
  | cons r rules ih =>
    obtain ⟨hfirst, hrest⟩ := List.forall_mem_cons.mp h
    rw [List.foldl_cons, addNamed_of_any hfirst]
    exact ih hrest

/-- Rules with new and distinct names are added as they stand. -/
theorem foldl_addNamed_of_nodup (h : ((kept ++ rules).map Named.name).Nodup) :
    rules.foldl addNamed kept = kept ++ rules := by
  induction rules generalizing kept with
  | nil => rw [List.foldl_nil, List.append_nil]
  | cons r rules ih =>
    have hnew : ¬ kept.any (Named.name · == Named.name r) = true := by
      intro hthere
      obtain ⟨k, hk, hkr⟩ := List.any_eq_true.mp hthere
      rw [List.map_append] at h
      have hmem : Named.name r ∈ (r :: rules).map Named.name :=
        List.mem_map_of_mem List.mem_cons_self
      exact List.disjoint_of_nodup_append h (List.mem_map_of_mem hk) (eq_of_beq hkr ▸ hmem)
    have hsplit : kept ++ r :: rules = kept ++ [r] ++ rules := by simp
    rw [List.foldl_cons, addNamed_of_not_any hnew, hsplit]
    exact ih (hsplit ▸ h)

/-- What is added to rules that are there is what would be added to none, without the names that are
there. -/
theorem foldl_addNamed_eq (kept rules : List α) :
    rules.foldl addNamed kept = kept ++
      (rules.foldl addNamed []).filter fun r => !kept.any (Named.name · == Named.name r) := by
  induction rules using List.reverseRecOn with
  | nil => rw [List.foldl_nil, List.foldl_nil, List.filter_nil, List.append_nil]
  | append_singleton rules r ih =>
    -- The last rule is new to the whole exactly if it is new to either part.
    have hall : (rules.foldl addNamed kept).any (Named.name · == Named.name r) =
        (kept.any (Named.name · == Named.name r) ||
          (rules.foldl addNamed []).any (Named.name · == Named.name r)) := by
      rw [any_foldl_addNamed, any_foldl_addNamed, List.any_append, List.nil_append]
    rw [List.foldl_append, List.foldl_append, List.foldl_cons, List.foldl_nil, List.foldl_cons,
      List.foldl_nil]
    by_cases hrules : (rules.foldl addNamed []).any (Named.name · == Named.name r) = true
    · rw [addNamed_of_any hrules, addNamed_of_any (by rw [hall, hrules, Bool.or_true]), ih]
    · rw [addNamed_of_not_any hrules, List.filter_append, ← List.append_assoc, ← ih]
      by_cases hkept : kept.any (Named.name · == Named.name r) = true
      · have hdrop : [r].filter (fun r => !kept.any (Named.name · == Named.name r)) = [] := by
          rw [List.filter_singleton, hkept]
          rfl
        rw [hdrop, List.append_nil, addNamed_of_any (by rw [hall, hkept, Bool.true_or])]
      · have hkeep : [r].filter (fun r => !kept.any (Named.name · == Named.name r)) = [r] := by
          rw [List.filter_singleton, Bool.eq_false_iff.mpr hkept]
          rfl
        rw [hkeep, addNamed_of_not_any]
        rw [hall, Bool.eq_false_iff.mpr hkept, Bool.eq_false_iff.mpr hrules]
        exact Bool.false_ne_true

/-! ### Merged sets -/

theorem mergeRules_sublist (sets : List (List α)) : (mergeRules sets).Sublist sets.flatten :=
  foldl_addNamed_sublist [] sets.flatten

theorem mem_of_mem_mergeRules {sets : List (List α)} (h : r ∈ mergeRules sets) : r ∈ sets.flatten :=
  (mergeRules_sublist sets).subset h

theorem names_mergeRules (sets : List (List α)) :
    (mergeRules sets).map Named.name = (sets.flatten.map Named.name).eraseDups := by
  rw [mergeRules_eq, names_foldl_addNamed, eraseDups_eq_foldl]
  rfl

theorem nodup_names_mergeRules (sets : List (List α)) :
    ((mergeRules sets).map Named.name).Nodup := by
  rw [mergeRules_eq, names_foldl_addNamed]
  exact nodup_foldl_addUnlessThere (fun n _ => isolated_of_lawful n) List.nodup_nil

theorem mergeRules_append (front back : List (List α)) :
    mergeRules (front ++ back) = back.flatten.foldl addNamed (mergeRules front) := by
  rw [mergeRules_eq, List.flatten_append, List.foldl_append]
  rfl

/-- To add a merged set is to add the sets that were merged. -/
theorem foldl_addNamed_mergeRules (kept : List α) (sets : List (List α)) :
    (mergeRules sets).foldl addNamed kept = sets.flatten.foldl addNamed kept := by
  have hagain : (mergeRules sets).foldl addNamed [] = mergeRules sets :=
    foldl_addNamed_of_nodup (nodup_names_mergeRules sets)
  rw [foldl_addNamed_eq kept (mergeRules sets), hagain, foldl_addNamed_eq kept sets.flatten,
    mergeRules_eq]

theorem mergeRules_nested (front sets back : List (List α)) :
    mergeRules (front ++ mergeRules sets :: back) = mergeRules (front ++ sets ++ back) := by
  rw [mergeRules_append, List.flatten_cons, List.foldl_append, foldl_addNamed_mergeRules,
    ← List.foldl_append, ← List.flatten_append, ← mergeRules_append, List.append_assoc]

/-- What merging makes of rules that stand one after another. -/
structure Merged (rules merged : List α) : Prop where
  sublist : merged.Sublist rules
  distinct : (merged.map Named.name).Nodup
  /-- Names come in the order in which they first occur. -/
  order : merged.map Named.name = (rules.map Named.name).eraseDups
  /-- A name that occurs stands for the first rule that has it. -/
  first : ∀ n, merged.find? (Named.name · == n) = rules.find? (Named.name · == n)

/-- Merging keeps the first rule of each name, in order. Which of the sets are merged before does
not matter, and a set that is merged with itself is as if alone. -/
theorem mergeRules_keeps_first (sets : List (List α)) (a b c : List α) :
    Merged sets.flatten (mergeRules sets) ∧
      (∀ front back, mergeRules (front ++ mergeRules sets :: back) =
        mergeRules (front ++ sets ++ back)) ∧
      mergeRules [mergeRules [a, b], c] = mergeRules [a, b, c] ∧
      mergeRules [a, mergeRules [b, c]] = mergeRules [a, b, c] ∧
      mergeRules [a, a] = mergeRules [a] := by
  refine ⟨⟨mergeRules_sublist sets, nodup_names_mergeRules sets, names_mergeRules sets,
    find?_foldl_addNamed [] sets.flatten⟩, fun front back => mergeRules_nested front sets back,
    mergeRules_nested [] [a, b] [c], mergeRules_nested [a] [b, c] [], ?_⟩
  have hsplit : [a, a] = [a] ++ [a] := rfl
  rw [hsplit, mergeRules_append]
  apply foldl_addNamed_of_any
  intro r hr
  have hr' : r ∈ [a].flatten := hr
  rw [mergeRules_eq, any_foldl_addNamed]
  exact List.any_eq_true.mpr ⟨r, hr', BEq.rfl⟩

/-- The first of two rules of one name stays in its place. -/
example :
    let rule (name description : String) : PresenceRule :=
      ⟨name, description, .warning, [], [], none, "", ""⟩
    (mergeRules [[rule "a" "1", rule "b" "1"], [rule "c" "2", rule "a" "2"]]).map
      (fun r => (r.name, r.description)) = [("a", "1"), ("b", "1"), ("c", "2")] := by
  decide

end ServiceBlueprint.Gap
