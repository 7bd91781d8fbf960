import Mathlib.Order.Lattice
import ServiceBlueprint.Proofs.Table

/-!
# Grouping

Values are collected under their keys one by one. When the keys ascend, a value goes into the last
group or begins a new one after it, so that the groups, one after the other, are the entries they
were made from. Which keys are used makes no difference, as long as they are told apart alike.
-/

namespace ServiceBlueprint.Table

/-- The entries in the groups of a table, group by group. -/
def ungroup {κ ν : Type} (t : Table κ (List ν)) : List (κ × ν) :=
  t.flatMap fun g => g.2.map fun x => (g.1, x)

section

variable {κ ν : Type} [BEq κ]

/-- One more value in the group of its key. -/
def collect (t : Table κ (List ν)) (e : κ × ν) : Table κ (List ν) :=
  (t.ensure e.1 []).modify e.1 (· ++ [e.2])

theorem group_append_singleton (entries : List (κ × ν)) (e : κ × ν) :
    group (entries ++ [e]) = (group entries).collect e := by
  unfold group
  rw [List.foldl_append]
  rfl

theorem modify_append (t u : Table κ ν) (k : κ) (f : ν → ν) :
    modify (t ++ u) k f = modify t k f ++ modify u k f :=
  List.map_append

theorem modify_of_hasKey_eq_false {t : Table κ ν} {k : κ} (h : t.hasKey k = false) (f : ν → ν) :
    t.modify k f = t := by
  have hother : ∀ e ∈ t, (if e.1 == k then (e.1, f e.2) else e) = e := by
    intro e he
    rw [if_neg]
    intro hk
    rw [hasKey_iff.mpr ⟨e, he, hk⟩] at h
    cases h
  exact (List.map_congr_left hother).trans (List.map_id t)

/-- A value under a new key is a group of its own, after the others. -/
theorem collect_of_hasKey_eq_false [ReflBEq κ] {t : Table κ (List ν)} {e : κ × ν}
    (h : t.hasKey e.1 = false) : t.collect e = t ++ [(e.1, [e.2])] := by
  unfold collect ensure
  rw [h, if_neg Bool.false_ne_true, modify_append, modify_of_hasKey_eq_false h]
  simp [modify]

/-- A value under the key of the last group comes last in that group. -/
theorem collect_append_singleton [ReflBEq κ] {t : Table κ (List ν)} {k : κ}
    (h : t.hasKey k = false) (xs : List ν) (x : ν) :
    collect (t ++ [(k, xs)]) (k, x) = t ++ [(k, xs ++ [x])] := by
  have hkey : hasKey (t ++ [(k, xs)]) k = true :=
    hasKey_iff.mpr ⟨(k, xs), List.mem_append_right t List.mem_cons_self, BEq.rfl⟩
  unfold collect ensure
  rw [if_pos hkey, modify_append, modify_of_hasKey_eq_false h]
  simp [modify]

/-! ### Other keys -/

/-- The same values under other keys. -/
def mapKeys {κ ν κ' : Type} (f : κ → κ') (t : Table κ ν) : Table κ' ν :=
  t.map fun e => (f e.1, e.2)

theorem ungroup_mapKeys {κ ν κ' : Type} (f : κ → κ') (t : Table κ (List ν)) :
    ungroup (t.mapKeys f) = mapKeys f t.ungroup := by
  unfold ungroup mapKeys
  rw [List.flatMap_map, List.map_flatMap]
  simp only [List.map_map]
  rfl

theorem keys_mapKeys {κ ν κ' : Type} (f : κ → κ') (t : Table κ ν) :
    (t.mapKeys f).keys = t.keys.map f := by
  unfold keys mapKeys
  rw [List.map_map, List.map_map]
  rfl

variable {κ' : Type} [BEq κ'] {f : κ → κ'}

theorem hasKey_mapKeys (hf : ∀ a b, (f a == f b) = (a == b)) (t : Table κ ν) (k : κ) :
    (t.mapKeys f).hasKey (f k) = t.hasKey k := by
  rw [Bool.eq_iff_iff, hasKey_iff, hasKey_iff]
  unfold mapKeys
  constructor
  · rintro ⟨e, he, hk⟩
    obtain ⟨e', he', rfl⟩ := List.mem_map.mp he
    exact ⟨e', he', hf e'.1 k ▸ hk⟩
  · rintro ⟨e, he, hk⟩
    exact ⟨_, List.mem_map_of_mem he, (hf e.1 k).trans hk⟩

theorem collect_mapKeys (hf : ∀ a b, (f a == f b) = (a == b)) (t : Table κ (List ν)) (e : κ × ν) :
    (t.mapKeys f).collect (f e.1, e.2) = (t.collect e).mapKeys f := by
  have hensure : (t.mapKeys f).ensure (f e.1) [] = (t.ensure e.1 []).mapKeys f := by
    unfold ensure
    rw [hasKey_mapKeys hf]
    split
    · rfl
    · rw [mapKeys, mapKeys, List.map_append, List.map_singleton]
  unfold collect
  rw [hensure, mapKeys, mapKeys, modify, modify, List.map_map, List.map_map]
  apply List.map_congr_left
  intro g _
  simp only [Function.comp_apply, hf]
  split <;> rfl

theorem group_mapKeys (hf : ∀ a b, (f a == f b) = (a == b)) (entries : Table κ ν) :
    group (entries.mapKeys f) = (group entries).mapKeys f := by
  induction entries using List.reverseRecOn with
  | nil => rfl
  | append_singleton entries e ih =>
    have hsplit : mapKeys f (entries ++ [e]) = mapKeys f entries ++ [(f e.1, e.2)] :=
      List.map_append
    rw [hsplit, group_append_singleton, group_append_singleton, ih, collect_mapKeys hf]

end

/-! ### Ascending keys -/

section

variable {κ ν : Type} [LinearOrder κ]

/-- The table has the entries in groups: the groups make up the entries as they stand, their keys
ascend without repeats, and none is empty. -/
structure Groups (t : Table κ (List ν)) (entries : List (κ × ν)) : Prop where
  ungroup : t.ungroup = entries
  ascending : t.keys.Pairwise (· < ·)
  nonempty : ∀ g ∈ t, g.2 ≠ []

variable {t : Table κ (List ν)} {entries : List (κ × ν)} {e : κ × ν}

/-- A group stands for entries, so its key is bounded as theirs are. -/
theorem Groups.key_le (h : Groups t entries) {k : κ} (hk : ∀ e ∈ entries, e.1 ≤ k)
    {g : κ × List ν} (hg : g ∈ t) : g.1 ≤ k := by
  obtain ⟨x, hx⟩ := List.exists_mem_of_ne_nil g.2 (h.nonempty g hg)
  apply hk (g.1, x)
  rw [← h.ungroup]
  exact List.mem_flatMap.mpr ⟨g, hg, List.mem_map_of_mem hx⟩

/-- The last group has the greatest key. -/
theorem Groups.lt_last {g : κ × List ν} (h : Groups (t ++ [g]) entries) : ∀ g' ∈ t, g'.1 < g.1 := by
  have hascending := h.ascending
  rw [keys, List.map_append, List.pairwise_append] at hascending
  intro g' hg'
  exact hascending.2.2 _ (List.mem_map_of_mem hg') _ (List.mem_singleton_self _)

variable [BEq κ] [LawfulBEq κ]

theorem hasKey_eq_false_of_lt {k : κ} {t : Table κ ν} (h : ∀ g ∈ t, g.1 < k) :
    t.hasKey k = false := by
  rw [← Bool.not_eq_true, hasKey_iff]
  rintro ⟨g, hg, hk⟩
  exact (h g hg).ne (eq_of_beq hk)

theorem Groups.collect_new (h : Groups t entries) (hnew : ∀ g ∈ t, g.1 < e.1) :
    Groups (t.collect e) (entries ++ [e]) := by
  rw [collect_of_hasKey_eq_false (hasKey_eq_false_of_lt hnew)]
  constructor
  · rw [Table.ungroup, List.flatMap_append, ← h.ungroup]
    rfl
  · rw [keys, List.map_append, List.pairwise_append]
    refine ⟨h.ascending, List.pairwise_singleton _ _, ?_⟩
    intro a ha b hb
    obtain ⟨g, hg, rfl⟩ := List.mem_map.mp ha
    rw [List.mem_singleton.mp hb]
    exact hnew g hg
  · rw [List.forall_mem_append]
    refine ⟨h.nonempty, ?_⟩
    intro g hg
    rw [List.mem_singleton.mp hg]
    exact List.cons_ne_nil _ _

theorem Groups.collect_last {g : κ × List ν} (h : Groups (t ++ [g]) entries) {x : ν} :
    Groups (Table.collect (t ++ [g]) (g.1, x)) (entries ++ [(g.1, x)]) := by
  rw [collect_append_singleton (hasKey_eq_false_of_lt h.lt_last) g.2 x]
  constructor
  · rw [← h.ungroup]
    simp [Table.ungroup]
  · have hkeys : keys (t ++ [(g.1, g.2 ++ [x])]) = keys (t ++ [g]) := by
      simp [keys]
    rw [hkeys]
    exact h.ascending
  · have hnonempty := h.nonempty
    rw [List.forall_mem_append] at hnonempty ⊢
    refine ⟨hnonempty.1, ?_⟩
    intro g' hg'
    rw [List.mem_singleton.mp hg']
    exact List.append_ne_nil_of_right_ne_nil _ (List.cons_ne_nil _ _)

/-- An entry whose key comes after no other leaves the groups as they are but for the last one. -/
theorem Groups.collect (h : Groups t entries) (hlast : ∀ e' ∈ entries, e'.1 ≤ e.1) :
    Groups (t.collect e) (entries ++ [e]) := by
  rcases List.eq_nil_or_concat' t with rfl | ⟨t, g, rfl⟩
  · exact h.collect_new fun g hg => absurd hg List.not_mem_nil
  · have hg := h.key_le hlast (List.mem_append_right t (List.mem_singleton_self g))
    rcases hg.lt_or_eq with hlt | heq
    · apply h.collect_new
      rw [List.forall_mem_append]
      refine ⟨fun g' hg' => (h.lt_last g' hg').trans hlt, ?_⟩
      intro g' hg'
      rwa [List.mem_singleton.mp hg']
    · have hlast := h.collect_last (x := e.2)
      rwa [heq] at hlast

/-- Entries with ascending keys are grouped without loss and in order. -/
theorem groups_group (h : entries.Pairwise fun a b => a.1 ≤ b.1) :
    Groups (group entries) entries := by
  induction entries using List.reverseRecOn with
  | nil => exact ⟨rfl, List.Pairwise.nil, fun g hg => absurd hg List.not_mem_nil⟩
  | append_singleton entries e ih =>
    obtain ⟨hentries, -, hlast⟩ := List.pairwise_append.mp h
    rw [group_append_singleton]
    exact (ih hentries).collect fun e' he' => hlast e' he' e (List.mem_singleton_self e)

end

end ServiceBlueprint.Table
