import Mathlib.Data.List.Induction
import Mathlib.Data.List.Nodup
import ServiceBlueprint.Table

/-!
# Looking up in tables

What each operation on tables does to look-ups and to the list of keys. Keys are compared with an
equivalence that need not be equality, so a look-up depends on the class of a key only. A table with
distinct keys gives every entry it holds.
-/

namespace ServiceBlueprint

variable {κ : Type} [BEq κ]

/-- A key that is the same as no other. -/
def Isolated (k : κ) : Prop := ∀ k' : κ, (k == k') = true → k' = k

theorem Isolated.contains_iff [ReflBEq κ] {k : κ} (hk : Isolated k) {xs : List κ} :
    xs.contains k = true ↔ k ∈ xs := by
  rw [List.contains_iff_exists_mem_beq]
  constructor
  · rintro ⟨x, hx, hkx⟩
    rwa [← hk x hkx]
  · exact fun hm => ⟨k, hm, BEq.rfl⟩

/-- An element is there afterwards exactly if it was or is the one added. -/
theorem Isolated.mem_addUnlessThere [ReflBEq κ] {x : κ} (hx : Isolated x) {xs : List κ} {y : κ} :
    y ∈ addUnlessThere xs x ↔ y ∈ xs ∨ y = x := by
  unfold addUnlessThere
  by_cases hc : xs.contains x
  · rw [if_pos hc]
    constructor
    · exact Or.inl
    · rintro (hy | rfl)
      · exact hy
      · exact hx.contains_iff.mp hc
  · rw [if_neg hc, List.mem_append, List.mem_singleton]

theorem isolated_of_lawful [LawfulBEq κ] (k : κ) : Isolated k :=
  fun _ h => (eq_of_beq h).symm

theorem mem_foldl_addUnlessThere [ReflBEq κ] {xs seen : List κ} (h : ∀ x ∈ xs, Isolated x)
    {x : κ} : x ∈ xs.foldl addUnlessThere seen ↔ x ∈ seen ∨ x ∈ xs := by
  induction xs generalizing seen with
  | nil => simp
  | cons y xs ih =>
    obtain ⟨hy, hrest⟩ := List.forall_mem_cons.mp h
    rw [List.foldl_cons, ih hrest, hy.mem_addUnlessThere, List.mem_cons, or_assoc]

theorem nodup_foldl_addUnlessThere [ReflBEq κ] {xs seen : List κ} (h : ∀ x ∈ xs, Isolated x)
    (hseen : seen.Nodup) : (xs.foldl addUnlessThere seen).Nodup := by
  induction xs generalizing seen with
  | nil => exact hseen
  | cons y xs ih =>
    obtain ⟨hy, hrest⟩ := List.forall_mem_cons.mp h
    apply ih hrest
    unfold addUnlessThere
    by_cases hin : seen.contains y
    · rwa [if_pos hin]
    · rw [if_neg hin]
      rw [hy.contains_iff] at hin
      refine List.nodup_append.mpr ⟨hseen, List.nodup_singleton y, ?_⟩
      rintro a ha b hb rfl
      exact hin (List.mem_singleton.mp hb ▸ ha)

/-- Up to sameness an element is there afterwards exactly if it was or is the one added. -/
theorem contains_addUnlessThere [EquivBEq κ] {xs : List κ} {x y : κ} :
    (addUnlessThere xs x).contains y = true ↔ xs.contains y = true ∨ (x == y) = true := by
  unfold addUnlessThere
  by_cases hc : xs.contains x
  · rw [if_pos hc]
    constructor
    · exact Or.inl
    · rintro (hy | hxy)
      · exact hy
      · rw [List.contains_iff_exists_mem_beq] at hc ⊢
        obtain ⟨z, hz, hxz⟩ := hc
        exact ⟨z, hz, BEq.trans (BEq.symm hxy) hxz⟩
  · rw [if_neg hc]
    simp [BEq.comm (a := y)]

theorem contains_foldl_addUnlessThere [EquivBEq κ] {xs seen : List κ} {x : κ} :
    (xs.foldl addUnlessThere seen).contains x = true ↔
      seen.contains x = true ∨ xs.contains x = true := by
  induction xs generalizing seen with
  | nil => simp
  | cons y xs ih =>
    rw [List.foldl_cons, ih, contains_addUnlessThere, List.contains_cons, Bool.or_eq_true,
      BEq.comm (a := x), or_assoc]

theorem eq_nil_iff_contains [ReflBEq κ] {xs : List κ} :
    xs = [] ↔ ∀ x, ¬ xs.contains x = true := by
  constructor
  · rintro rfl x hx
    cases hx
  · intro h
    rw [List.eq_nil_iff_forall_not_mem]
    intro x hx
    exact h x (List.contains_iff_exists_mem_beq.mpr ⟨x, hx, BEq.rfl⟩)

/-! ### Lists without repeats -/

theorem eraseDupsBy_loop_append_singleton (xs kept : List κ) (x : κ) :
    List.eraseDupsBy.loop (· == ·) (xs ++ [x]) kept =
      addUnlessThere (List.eraseDupsBy.loop (· == ·) xs kept) x := by
  induction xs generalizing kept with
  | nil =>
    change (match kept.any (x == ·) with
      | true => kept.reverse
      | false => (x :: kept).reverse) = addUnlessThere kept.reverse x
    rw [addUnlessThere, List.contains_reverse, ← List.any_beq]
    cases kept.any (x == ·) <;> simp
  | cons y xs ih =>
    rw [List.cons_append, List.eraseDupsBy.loop, List.eraseDupsBy.loop]
    split
    · exact ih kept
    · exact ih (y :: kept)

/-- One more element is left out if it is there, and comes last otherwise. -/
theorem eraseDups_append_singleton (xs : List κ) (x : κ) :
    (xs ++ [x]).eraseDups = addUnlessThere xs.eraseDups x :=
  eraseDupsBy_loop_append_singleton xs [] x

theorem eraseDups_eq_foldl (xs : List κ) : xs.eraseDups = xs.foldl addUnlessThere [] := by
  induction xs using List.reverseRecOn with
  | nil => rfl
  | append_singleton xs x ih =>
    rw [eraseDups_append_singleton, ih, List.foldl_append]
    rfl

theorem mem_of_mem_eraseDups {xs : List κ} {x : κ} (h : x ∈ xs.eraseDups) : x ∈ xs := by
  induction xs using List.reverseRecOn with
  | nil => exact h
  | append_singleton xs y ih =>
    rw [eraseDups_append_singleton, addUnlessThere] at h
    split at h
    · exact List.mem_append_left _ (ih h)
    · rw [List.mem_append] at h ⊢
      exact h.imp_left ih

theorem contains_eraseDups [EquivBEq κ] {xs : List κ} {x : κ} :
    xs.eraseDups.contains x = true ↔ xs.contains x = true := by
  rw [eraseDups_eq_foldl, contains_foldl_addUnlessThere]
  simp

theorem pairwise_eraseDups [EquivBEq κ] (xs : List κ) :
    xs.eraseDups.Pairwise fun x y => (x == y) = false := by
  induction xs using List.reverseRecOn with
  | nil => exact List.Pairwise.nil
  | append_singleton xs x ih =>
    rw [eraseDups_append_singleton, addUnlessThere]
    by_cases hx : xs.eraseDups.contains x
    · rwa [if_pos hx]
    · rw [if_neg hx, List.pairwise_append]
      refine ⟨ih, List.pairwise_singleton _ _, ?_⟩
      intro y hy z hz
      rw [List.mem_singleton.mp hz, ← Bool.not_eq_true]
      intro hyx
      exact hx (List.contains_iff_exists_mem_beq.mpr ⟨y, hy, BEq.symm hyx⟩)

namespace Table

variable {ν : Type}

def Distinct (t : Table κ ν) : Prop :=
  t.Pairwise fun a b => (a.1 == b.1) = false

@[simp] theorem find?_nil (k : κ) : find? ([] : Table κ ν) k = none := rfl

theorem find?_cons (e : κ × ν) (t : Table κ ν) (k : κ) :
    find? (e :: t) k = if e.1 == k then some e.2 else t.find? k := rfl

theorem find?_append (t u : Table κ ν) (k : κ) :
    find? (t ++ u) k = (t.find? k).or (u.find? k) := by
  induction t with
  | nil => rfl
  | cons e t ih =>
    rw [List.cons_append, find?_cons, find?_cons, ih]
    split <;> rfl

theorem hasKey_iff {t : Table κ ν} {k : κ} : t.hasKey k = true ↔ ∃ e ∈ t, (e.1 == k) = true := by
  unfold hasKey
  induction t with
  | nil => simp
  | cons e t ih =>
    rw [find?_cons]
    by_cases he : e.1 == k
    · simp [he]
    · simp [he, ih]

theorem find?_eq_none_iff {t : Table κ ν} {k : κ} :
    t.find? k = none ↔ ∀ e ∈ t, (e.1 == k) = false := by
  rw [← Option.not_isSome_iff_eq_none]
  change ¬ t.hasKey k = true ↔ _
  rw [hasKey_iff]
  simp

theorem mem_of_find? {t : Table κ ν} {k : κ} {v : ν} (h : t.find? k = some v) :
    ∃ e ∈ t, (e.1 == k) = true ∧ e.2 = v := by
  induction t with
  | nil => cases h
  | cons e t ih =>
    rw [find?_cons] at h
    by_cases he : e.1 == k
    · rw [if_pos he] at h
      exact ⟨e, List.mem_cons_self, he, Option.some.inj h⟩
    · rw [if_neg he] at h
      obtain ⟨e', hm, hk, hv⟩ := ih h
      exact ⟨e', List.mem_cons_of_mem _ hm, hk, hv⟩

/-! ### Keys -/

theorem keys_modify (t : Table κ ν) (k : κ) (f : ν → ν) : (t.modify k f).keys = t.keys := by
  unfold keys modify
  rw [List.map_map]
  apply List.map_congr_left
  intro e _
  simp only [Function.comp_apply]
  split <;> rfl

theorem mem_keys_insert {t : Table κ ν} {k k' : κ} {v : ν} (h : k' ∈ (t.insert k v).keys) :
    k' ∈ t.keys ∨ k' = k := by
  induction t with
  | nil => exact Or.inr (List.mem_singleton.mp h)
  | cons e t ih =>
    unfold insert at h
    by_cases he : e.1 == k
    · rw [if_pos he] at h
      exact Or.inl h
    · rw [if_neg he] at h
      rcases List.mem_cons.mp h with rfl | h
      · exact Or.inl List.mem_cons_self
      · rcases ih h with h | h
        · exact Or.inl (List.mem_cons_of_mem _ h)
        · exact Or.inr h

theorem distinct_iff_keys {t : Table κ ν} :
    t.Distinct ↔ t.keys.Pairwise fun a b => (a == b) = false := by
  unfold Distinct keys
  rw [List.pairwise_map]

theorem insert_of_find?_eq_none {t : Table κ ν} {k : κ} (h : t.find? k = none) (v : ν) :
    t.insert k v = t ++ [(k, v)] := by
  induction t with
  | nil => rfl
  | cons e t ih =>
    rw [find?_cons] at h
    by_cases he : e.1 == k
    · rw [if_pos he] at h
      cases h
    · rw [if_neg he] at h
      unfold insert
      rw [if_neg he, ih h]
      rfl

/-- Entries with distinct keys are a table as they stand. -/
theorem foldl_insert_of_distinct (t entries : Table κ ν) (h : Distinct (t ++ entries)) :
    entries.foldl (fun t e => t.insert e.1 e.2) t = t ++ entries := by
  induction entries generalizing t with
  | nil => exact (List.append_nil t).symm
  | cons e entries ih =>
    have hnew : t.find? e.1 = none := by
      rw [find?_eq_none_iff]
      intro e' he'
      exact (List.pairwise_append.mp h).2.2 e' he' e List.mem_cons_self
    have hsplit : t ++ e :: entries = (t ++ [(e.1, e.2)]) ++ entries := by simp
    rw [List.foldl_cons, insert_of_find?_eq_none hnew, hsplit]
    exact ih _ (hsplit ▸ h)

theorem ofList_of_distinct {entries : List (κ × ν)} (h : Distinct entries) :
    ofList entries = entries :=
  foldl_insert_of_distinct [] entries h

theorem ofList_append_singleton (entries : List (κ × ν)) (e : κ × ν) :
    ofList (entries ++ [e]) = (ofList entries).insert e.1 e.2 := by
  unfold ofList
  rw [List.foldl_append, List.foldl_cons, List.foldl_nil]

/-- Leaving out entries by their keys changes only the look-ups of those keys. -/
theorem find?_filter (t : Table κ ν) (p : κ → Bool)
    (hp : ∀ a b : κ, (a == b) = true → p a = p b) (k : κ) :
    find? (t.filter fun e => p e.1) k = if p k then t.find? k else none := by
  induction t with
  | nil => simp
  | cons e t ih =>
    rw [find?_cons]
    by_cases he : e.1 == k
    · rw [if_pos he, List.filter_cons, hp _ _ he]
      by_cases hk : p k
      · rw [if_pos hk, if_pos hk, find?_cons, if_pos he]
      · rw [if_neg hk, if_neg hk, ih, if_neg hk]
    · rw [if_neg he, List.filter_cons]
      split
      · rw [find?_cons, if_neg he, ih]
      · exact ih

theorem distinct_insert {t : Table κ ν} (h : t.Distinct) (k : κ) (v : ν) :
    (t.insert k v).Distinct := by
  induction t with
  | nil => exact List.pairwise_singleton _ _
  | cons e t ih =>
    obtain ⟨hfirst, hrest⟩ := List.pairwise_cons.mp h
    unfold insert
    by_cases he : e.1 == k
    · rw [if_pos he]
      exact List.pairwise_cons.mpr ⟨hfirst, hrest⟩
    · rw [if_neg he]
      refine List.pairwise_cons.mpr ⟨?_, ih hrest⟩
      intro e' he'
      rcases mem_keys_insert (List.mem_map_of_mem he') with hm | hm
      · obtain ⟨e'', hm, hkey⟩ := List.mem_map.mp hm
        rw [← hkey]
        exact hfirst e'' hm
      · rw [hm]
        exact Bool.eq_false_iff.mpr he

theorem distinct_foldl_insert {t : Table κ ν} (h : t.Distinct) (entries : List (κ × ν)) :
    (entries.foldl (fun t e => t.insert e.1 e.2) t).Distinct := by
  induction entries generalizing t with
  | nil => exact h
  | cons e entries ih => exact ih (distinct_insert h e.1 e.2)

theorem distinct_ofList (entries : List (κ × ν)) : (ofList entries).Distinct :=
  distinct_foldl_insert List.Pairwise.nil entries

/-! ### Look-ups under an equivalence of keys -/

variable [EquivBEq κ]

theorem find?_congr (t : Table κ ν) {k k' : κ} (h : (k == k') = true) :
    t.find? k = t.find? k' := by
  induction t with
  | nil => rfl
  | cons e t ih => rw [find?_cons, find?_cons, ih, BEq.congr_right h]

theorem find?_insert (t : Table κ ν) (k k' : κ) (v : ν) :
    (t.insert k v).find? k' = if k == k' then some v else t.find? k' := by
  induction t with
  | nil => rfl
  | cons e t ih =>
    unfold insert
    by_cases he : e.1 == k
    · rw [if_pos he, find?_cons, find?_cons, BEq.congr_left he]
      split <;> rfl
    · rw [if_neg he, find?_cons, find?_cons, ih]
      by_cases hk : e.1 == k'
      · have hne : ¬ (k == k') = true := fun h => he (BEq.trans hk (BEq.symm h))
        rw [if_pos hk, if_pos hk, if_neg hne]
      · rw [if_neg hk, if_neg hk]

/-- Of entries that are put into a table one after the other, those with new keys stand beside what
is there, and the others take its place. -/
theorem find?_foldl_insert_of_distinct {entries : Table κ ν} (h : entries.Distinct)
    (t : Table κ ν) (k : κ) :
    (entries.foldl (fun t e => t.insert e.1 e.2) t).find? k =
      (entries.find? k).or (t.find? k) := by
  induction entries generalizing t with
  | nil => rfl
  | cons e entries ih =>
    obtain ⟨hfirst, hrest⟩ := List.pairwise_cons.mp h
    rw [List.foldl_cons, ih hrest, find?_insert, find?_cons]
    by_cases he : e.1 == k
    · have hnone : find? entries k = none := by
        rw [find?_eq_none_iff]
        intro e' he'
        rw [← BEq.congr_right he, BEq.comm]
        exact hfirst e' he'
      rw [if_pos he, if_pos he, hnone]
      rfl
    · rw [if_neg he, if_neg he]

theorem find?_ensure (t : Table κ ν) (k k' : κ) (v : ν) :
    (t.ensure k v).find? k' = (t.find? k').or (if k == k' then some v else none) := by
  unfold ensure
  by_cases hk : t.hasKey k
  · rw [if_pos hk]
    by_cases h : k == k'
    · obtain ⟨w, hw⟩ := Option.isSome_iff_exists.mp hk
      rw [← find?_congr t h, hw]
      rfl
    · rw [if_neg h, Option.or_none]
  · rw [if_neg hk, find?_append]
    rfl

theorem find?_modify (t : Table κ ν) (k k' : κ) (f : ν → ν) :
    (t.modify k f).find? k' = if k == k' then (t.find? k').map f else t.find? k' := by
  induction t with
  | nil => simp [modify]
  | cons e t ih =>
    have hcons : modify (e :: t) k f = (if e.1 == k then (e.1, f e.2) else e) :: modify t k f := rfl
    rw [hcons, find?_cons, find?_cons, ih]
    by_cases he : e.1 == k
    · rw [if_pos he, BEq.congr_left he]
      by_cases h : k == k'
      · rw [if_pos h, if_pos h, if_pos h]
        rfl
      · rw [if_neg h, if_neg h, if_neg h, if_neg h]
    · rw [if_neg he]
      by_cases hk : e.1 == k'
      · have hne : ¬ (k == k') = true := fun h => he (BEq.trans hk (BEq.symm h))
        rw [if_pos hk, if_neg hne, if_pos hk]
      · rw [if_neg hk, if_neg hk]

/-! ### Tables of lists -/

theorem hasKey_ofList {entries : List (κ × ν)} {e : κ × ν} (he : e ∈ entries) :
    (ofList entries).hasKey e.1 = true := by
  induction entries using List.reverseRecOn with
  | nil => cases he
  | append_singleton entries e' ih =>
    rw [ofList_append_singleton, hasKey, find?_insert]
    by_cases hsame : e'.1 == e.1
    · rw [if_pos hsame]
      rfl
    · rw [if_neg hsame]
      rcases List.mem_append.mp he with he | he
      · exact ih he
      · rw [List.mem_singleton.mp he] at hsame
        exact absurd BEq.rfl hsame

/-- Under keys that are the same as no other, a table holds nothing but what it was given. -/
theorem mem_insert {t : Table κ ν} {k : κ} (hk : Isolated k) {v : ν} {e : κ × ν}
    (h : e ∈ t.insert k v) : e ∈ t ∨ e = (k, v) := by
  induction t with
  | nil => exact Or.inr (List.mem_singleton.mp h)
  | cons e' t ih =>
    unfold insert at h
    by_cases hsame : e'.1 == k
    · rw [if_pos hsame, hk e'.1 (BEq.symm hsame)] at h
      rcases List.mem_cons.mp h with h | h
      · exact Or.inr h
      · exact Or.inl (List.mem_cons_of_mem _ h)
    · rw [if_neg hsame] at h
      rcases List.mem_cons.mp h with rfl | h
      · exact Or.inl List.mem_cons_self
      · exact (ih h).imp_left (List.mem_cons_of_mem _)

theorem mem_of_mem_ofList {entries : List (κ × ν)} (h : ∀ e ∈ entries, Isolated e.1) {e : κ × ν}
    (he : e ∈ ofList entries) : e ∈ entries := by
  induction entries using List.reverseRecOn with
  | nil => exact he
  | append_singleton entries e' ih =>
    obtain ⟨hbefore, hlast⟩ := List.forall_mem_append.mp h
    rw [ofList_append_singleton] at he
    rw [List.mem_append, List.mem_singleton]
    exact (mem_insert (hlast e' List.mem_cons_self) he).imp_left (ih hbefore)

theorem find?_eq_some_of_mem {t : Table κ ν} (h : t.Distinct) {e : κ × ν} (he : e ∈ t) :
    t.find? e.1 = some e.2 := by
  induction t with
  | nil => cases he
  | cons e' t ih =>
    obtain ⟨hfirst, hrest⟩ := List.pairwise_cons.mp h
    rw [find?_cons]
    rcases List.mem_cons.mp he with rfl | he
    · rw [if_pos BEq.rfl]
    · rw [if_neg (by simp [hfirst e he]), ih hrest he]

/-- In which order the entries of a table stand does not matter to look-ups. -/
theorem find?_of_perm {t u : Table κ ν} (hd : t.Distinct) (hp : t.Perm u) (k : κ) :
    t.find? k = u.find? k := by
  have hd' : u.Distinct := hd.perm hp fun {a b} hab => BEq.symm_false hab
  cases hfind : t.find? k with
  | none =>
    rw [eq_comm, find?_eq_none_iff]
    exact fun e he => find?_eq_none_iff.mp hfind e (hp.mem_iff.mpr he)
  | some v =>
    obtain ⟨e, he, hk, rfl⟩ := mem_of_find? hfind
    rw [← find?_congr u hk, find?_eq_some_of_mem hd' (hp.mem_iff.mp he)]

/-! ### Keys under an equivalence -/

theorem hasKey_eq_contains_keys (t : Table κ ν) (k : κ) : t.hasKey k = t.keys.contains k := by
  rw [Bool.eq_iff_iff, hasKey_iff, List.contains_iff_exists_mem_beq, keys]
  simp [BEq.comm (a := k)]

theorem keys_insert (t : Table κ ν) (k : κ) (v : ν) :
    (t.insert k v).keys = addUnlessThere t.keys k := by
  induction t with
  | nil => rfl
  | cons e t ih =>
    have hcons : keys (e :: t) = e.1 :: keys t := rfl
    unfold insert
    rw [hcons, addUnlessThere, List.contains_cons, BEq.comm (a := k)]
    by_cases he : e.1 == k
    · rw [if_pos he, he, Bool.true_or, if_pos rfl]
      rfl
    · rw [if_neg he, Bool.eq_false_iff.mpr he, Bool.false_or]
      change e.1 :: (Table.insert t k v).keys = _
      rw [ih, addUnlessThere]
      split <;> rfl

theorem keys_ensure (t : Table κ ν) (k : κ) (v : ν) :
    (t.ensure k v).keys = addUnlessThere t.keys k := by
  rw [ensure, addUnlessThere, ← hasKey_eq_contains_keys]
  split
  · rfl
  · exact List.map_append

/-- Where keys are not repeated, an entry is the one that is found under its key. -/
theorem find?_of_mem {t : Table κ ν} {ks : List κ} (h : t.keys = ks.eraseDups) {e : κ × ν}
    (he : e ∈ t) : t.find? e.1 = some e.2 := by
  have hd : t.Distinct := by
    rw [distinct_iff_keys, h]
    exact pairwise_eraseDups ks
  exact find?_eq_some_of_mem hd he

end Table

/-! ### Looking up by name -/

/-- Where names tell the members of a list apart, what is found by a name has it. -/
theorem find?_name_eq_some_iff {α : Type} {all : List α} {name : α → String}
    (hself : ∀ a, all.find? (fun b => name b = name a) = some a) (s : String) (a : α) :
    all.find? (fun b => name b = s) = some a ↔ s = name a := by
  constructor
  · intro h
    have hname := List.find?_some h
    exact (of_decide_eq_true hname).symm
  · rintro rfl
    exact hself a

end ServiceBlueprint
