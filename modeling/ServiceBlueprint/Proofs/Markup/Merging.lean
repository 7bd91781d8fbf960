import Mathlib
import ServiceBlueprint.Proofs.Markup.Links
import ServiceBlueprint.Proofs.Triple

/-!
# What goes wrong while mappings are merged

Merging takes away the entry that it follows, so a mapping that merges itself does so once, and the
bound on the depth of merging is never met. All that goes wrong is that something else than mappings
is merged. The entries of a mapping, with those it merges, are no links.
-/

namespace ServiceBlueprint.Markup

open Std.Do

set_option mvcgen.warning false

/-- A state with the same bound, whose nodes have evolved. -/
structure FillState.Follows (s₀ s : FillState) : Prop where
  nodes : Evolves s₀.nodes s.nodes
  bound : s.bound = s₀.bound

theorem FillState.Follows.refl (s : FillState) : s.Follows s :=
  ⟨Evolves.refl _, rfl⟩

theorem FillState.Follows.trans {s₀ s₁ s₂ : FillState} (h : s₀.Follows s₁) (h' : s₁.Follows s₂) :
    s₀.Follows s₂ :=
  ⟨h.nodes.trans h'.nodes, h'.bound.trans h.bound⟩

variable {s₀ : FillState}

@[spec]
theorem broken_spec {α : Type} {Q : PostCond α (.arg FillState (.except Failure .pure))} :
    ⦃fun _ => Q.2.1 .malformed⦄ (broken : Fill α) ⦃Q⦄ :=
  fun _ h => h

@[spec]
theorem nodeAt_spec (id : Nat) :
    ⦃fun s => ⌜s = s₀⌝⦄ nodeAt id ⦃⇓ n s => ⌜n = nodeIn s₀.nodes id ∧ s = s₀⌝⦄ := by
  rintro s rfl
  exact ⟨rfl, rfl⟩

/-- Looking at nodes changes nothing. -/
theorem mapM_nodeAt_spec {α β : Type} (key : α → Nat) (f : Node → α → β) (xs : List α) :
    ⦃fun s => ⌜s = s₀⌝⦄ (xs.mapM fun x => do return f (← nodeAt (key x)) x)
    ⦃⇓ ys s => ⌜ys = xs.map (fun x => f (nodeIn s₀.nodes (key x)) x) ∧ s = s₀⌝⦄ := by
  induction xs with
  | nil =>
    rintro s rfl
    exact ⟨rfl, rfl⟩
  | cons x xs ih =>
    rw [List.mapM_cons]
    mvcgen [ih] with grind

@[spec]
theorem entriesOf_spec (id : Nat) :
    ⦃fun s => ⌜s = s₀⌝⦄ entriesOf id ⦃⇓ r s => ⌜r = (nodeIn s₀.nodes id).entries? ∧ s = s₀⌝⦄ := by
  mvcgen [entriesOf] with grind [Node.entries?]

@[spec]
theorem setEntries_spec (id : Nat) (entries : List (Nat × Nat)) :
    ⦃fun s => ⌜s = s₀⌝⦄ setEntries id entries
    ⦃⇓ _ s => ⌜s.nodes =
        s₀.nodes.setIfInBounds id (.mapping (nodeIn s₀.nodes id).tag entries) ∧
      s.bound = s₀.bound⌝⦄ := by
  mvcgen [setEntries, setNode] with grind

@[spec]
theorem tags_spec (entries : List (Nat × Nat)) :
    ⦃fun s => ⌜s = s₀⌝⦄ (entries.mapM fun e => return (← nodeAt e.1).tag : Fill (List Tag))
    ⦃⇓ tags s => ⌜tags = entries.map (fun e => (nodeIn s₀.nodes e.1).tag) ∧ s = s₀⌝⦄ :=
  mapM_nodeAt_spec Prod.fst (fun n _ => n.tag) entries

theorem takeMerge_spec (id : Nat) :
    ⦃fun s => ⌜s = s₀⌝⦄ takeMerge id
    ⦃⇓ r s => ⌜match r with
      | none => s = s₀ ∧ entriesUnder s₀.nodes .merge id = []
      | some _ => s₀.Follows s ∧ mergesLeft s.nodes < mergesLeft s₀.nodes⌝⦄ := by
  mvcgen [takeMerge]
  · rename_i hs₀ _ entries _ hentries _ i hfound _ htags _ _ hset
    subst hs₀
    obtain ⟨rfl, rfl⟩ := hentries
    obtain ⟨rfl, rfl⟩ := htags
    have hentries : (nodeIn _ id).entries = entries := rfl
    obtain ⟨hlt, hevolves, hless⟩ := Evolves.eraseMerge hentries hfound
    change i < entries.length at hlt
    rw [List.getElem?_eq_getElem hlt]
    rw [← hset.1] at hevolves hless
    exact ⟨⟨hevolves, hset.2⟩, hless⟩
  · rename_i hs₀ _ _ _ hentries _ hnone _ htags
    subst hs₀
    obtain ⟨rfl, rfl⟩ := hentries
    obtain ⟨rfl, rfl⟩ := htags
    rw [List.findIdx?_map, List.findIdx?_eq_none_iff] at hnone
    exact ⟨rfl, List.filter_eq_nil_iff.mpr fun e he => ne_true_of_eq_false (hnone e he)⟩

theorem retagKeys_spec (id : Nat) :
    ⦃fun s => ⌜s = s₀⌝⦄ retagKeys id
    ⦃⇓ _ s => ⌜s₀.Follows s ∧ (nodeIn s.nodes id).entries = (nodeIn s₀.nodes id).entries ∧
      ∀ e ∈ (nodeIn s₀.nodes id).entries, (nodeIn s.nodes e.1).tag ≠ .standard⌝⦄ := by
  mvcgen [retagKeys, setNode] invariants
  · ⇓⟨seen, _⟩ s => ⌜s₀.Follows s ∧ (nodeIn s.nodes id).entries = (nodeIn s₀.nodes id).entries ∧
      ∀ e ∈ seen.prefix, (nodeIn s.nodes e.1).tag ≠ .standard⌝
  next hseen n hstandard s' hnode t =>
    obtain ⟨hfollows, hentries, htags⟩ := hseen
    obtain ⟨rfl, rfl⟩ := hnode
    have hevolves := Evolves.retag hstandard
    refine ⟨⟨hfollows.nodes.trans hevolves, hfollows.bound⟩,
      (entries_retag _ _ id).trans hentries, ?_⟩
    intro e he
    rcases List.mem_append.mp he with he | he
    · exact hevolves.tag_ne_standard (htags e he)
    · rw [List.mem_singleton.mp he]
      exact ne_of_eq_of_ne (tag_retag hstandard) (by decide)
  next hseen n hother s' hnode =>
    obtain ⟨hfollows, hentries, htags⟩ := hseen
    obtain ⟨rfl, rfl⟩ := hnode
    refine ⟨hfollows, hentries, ?_⟩
    intro e he
    rcases List.mem_append.mp he with he | he
    · exact htags e he
    · rwa [List.mem_singleton.mp he]
  next hs₀ _ _ h =>
    obtain ⟨-, rfl⟩ := h
    subst hs₀
    exact ⟨⟨Evolves.refl _, rfl⟩, rfl, fun e he => absurd he List.not_mem_nil⟩
  next hs₀ _ _ h _ _ hseen =>
    obtain ⟨rfl, rfl⟩ := h
    subst hs₀
    exact hseen

/-! ### The entries of a mapping -/

/-- What the merging functions do at a bound on their depth that is large enough for the merges that
are left. -/
structure MergesAt (bound : Nat) : Prop where
  -- each merge that is followed costs one call of all four before the next one is taken
  flatten : ∀ (s₀ : FillState) (id : Nat), 4 * mergesLeft s₀.nodes + 2 ≤ bound →
    (nodeIn s₀.nodes id).IsMapping →
    ⦃fun s => ⌜s = s₀⌝⦄ flatten bound id
    ⦃post⟨fun _ s => ⌜s₀.Follows s ∧ Plain s.nodes (nodeIn s.nodes id).entries⌝,
      fun f => ⌜f = .malformed⌝⟩⦄
  takeMerges : ∀ (s₀ : FillState) (id : Nat), 4 * mergesLeft s₀.nodes + 1 ≤ bound →
    ⦃fun s => ⌜s = s₀⌝⦄ takeMerges bound id
    ⦃post⟨fun merged s => ⌜s₀.Follows s ∧ Plain s.nodes merged ∧
        entriesUnder s.nodes .merge id = []⌝,
      fun f => ⌜f = .malformed⌝⟩⦄
  mergedEntries : ∀ (s₀ : FillState) (source : Nat), 4 * mergesLeft s₀.nodes + 4 ≤ bound →
    ⦃fun s => ⌜s = s₀⌝⦄ mergedEntries bound source
    ⦃post⟨fun merged s => ⌜s₀.Follows s ∧ Plain s.nodes merged⌝, fun f => ⌜f = .malformed⌝⟩⦄
  flattened : ∀ (s₀ : FillState) (id : Nat), 4 * mergesLeft s₀.nodes + 3 ≤ bound →
    ⦃fun s => ⌜s = s₀⌝⦄ flattened bound id
    ⦃post⟨fun entries s => ⌜s₀.Follows s ∧ Plain s.nodes entries⌝, fun f => ⌜f = .malformed⌝⟩⦄

theorem mergesAt_zero : MergesAt 0 := by
  constructor <;> intros <;> omega

namespace MergesAt

variable {bound : Nat}

theorem flatten_succ (h : MergesAt bound) {id : Nat}
    (hbound : 4 * mergesLeft s₀.nodes + 2 ≤ bound + 1) (hid : (nodeIn s₀.nodes id).IsMapping) :
    ⦃fun s => ⌜s = s₀⌝⦄ Markup.flatten (bound + 1) id
    ⦃post⟨fun _ s => ⌜s₀.Follows s ∧ Plain s.nodes (nodeIn s.nodes id).entries⌝,
      fun f => ⌜f = .malformed⌝⟩⦄ := by
  have htake := h.takeMerges s₀ id (by omega)
  mvcgen [Markup.flatten, htake, retagKeys_spec]
  next hs₀ merged s₁ htaken _ s₂ hretagged _ s₃ hentries _ s₄ =>
    subst hs₀
    obtain ⟨hfollows, hmerged, hnone⟩ := htaken
    obtain ⟨hfollows', hsame, hstandard⟩ := hretagged
    obtain ⟨rfl, rfl⟩ := hentries
    intro hset hbound
    -- its own entries are no merges, all of which were taken, and no standard keys, which are text
    have hown : Plain s₃.nodes (nodeIn s₃.nodes id).entries := by
      apply plain_entries
      · have hsub := hfollows'.nodes.under .merge (Or.inl rfl) id
        rw [hnone] at hsub
        exact List.sublist_nil.mp hsub
      · rwa [hsame]
    have hplain := (hfollows'.nodes.plain hmerged).append hown
    have hmapping : (nodeIn s₃.nodes id).IsMapping :=
      (hfollows.trans hfollows').nodes.isMapping_iff.mpr hid
    have hevolves := Evolves.setPlain hmapping hplain
    rw [hset]
    refine ⟨(hfollows.trans hfollows').trans ⟨hset ▸ hevolves, hbound⟩, ?_⟩
    rw [entries_setEntries hmapping]
    exact hevolves.plain hplain

/-- Each merge that is followed is one that is not left any more. -/
theorem takeMerges_succ (h : MergesAt bound) {id : Nat}
    (hbound : 4 * mergesLeft s₀.nodes + 1 ≤ bound + 1) :
    ⦃fun s => ⌜s = s₀⌝⦄ Markup.takeMerges (bound + 1) id
    ⦃post⟨fun merged s => ⌜s₀.Follows s ∧ Plain s.nodes merged ∧
        entriesUnder s.nodes .merge id = []⌝,
      fun f => ⌜f = .malformed⌝⟩⦄ := by
  have hmerged := h.mergedEntries
  have htaken (s₁ : FillState) := h.takeMerges s₁ id
  mvcgen [Markup.takeMerges, hmerged, htaken, takeMerge_spec]
  case vc1 =>
    rename_i hs₀ _ _ _ htaken
    subst hs₀
    obtain ⟨rfl, hnone⟩ := htaken
    exact ⟨.refl _, fun e he => absurd he List.not_mem_nil, hnone⟩
  case vc2 =>
    rename_i hs₀ _ _ _ _ htaken
    subst hs₀
    have hless := htaken.2
    omega
  case vc3 =>
    rename_i hs₀ _ _ _ _ htaken _ _ hfound
    subst hs₀
    have hless := htaken.2
    have hle := hfound.1.nodes.mergesLeft_le
    omega
  case vc4 =>
    rename_i hs₀ _ _ _ _ htaken _ _ hfound _ _ hrest
    subst hs₀
    obtain ⟨hfollows, hrest, hnone⟩ := hrest
    exact ⟨(htaken.1.trans hfound.1).trans hfollows,
      (hfollows.nodes.plain hfound.2).append hrest, hnone⟩

theorem mapM_flattened (h : MergesAt bound) (s₀ : FillState) (items : List Nat)
    (hbound : 4 * mergesLeft s₀.nodes + 3 ≤ bound) :
    ⦃fun s => ⌜s = s₀⌝⦄ (items.mapM (Markup.flattened bound))
    ⦃post⟨fun found s => ⌜s₀.Follows s ∧ ∀ entries ∈ found, Plain s.nodes entries⌝,
      fun f => ⌜f = .malformed⌝⟩⦄ := by
  induction items generalizing s₀ with
  | nil =>
    rintro s rfl
    exact ⟨.refl _, fun _ he => absurd he List.not_mem_nil⟩
  | cons j items ih =>
    have hfirst := h.flattened s₀ j hbound
    rw [List.mapM_cons]
    mvcgen [hfirst, ih]
    case vc2 =>
      rename_i hfound
      have hle := hfound.1.nodes.mergesLeft_le
      omega
    case vc3 =>
      rename_i hfound _ _ hrest
      obtain ⟨hfollows, hrest⟩ := hrest
      exact ⟨hfound.1.trans hfollows,
        List.forall_mem_cons.mpr ⟨hfollows.nodes.plain hfound.2, hrest⟩⟩

theorem mergedEntries_succ (h : MergesAt bound) {source : Nat}
    (hbound : 4 * mergesLeft s₀.nodes + 4 ≤ bound + 1) :
    ⦃fun s => ⌜s = s₀⌝⦄ Markup.mergedEntries (bound + 1) source
    ⦃post⟨fun merged s => ⌜s₀.Follows s ∧ Plain s.nodes merged⌝, fun f => ⌜f = .malformed⌝⟩⦄ := by
  have hone := h.flattened s₀ source (by omega)
  have hall (items : List Nat) := h.mapM_flattened s₀ items (by omega)
  mvcgen [Markup.mergedEntries, hone, hall]
  case vc1 =>
    rename_i hs₀ _ _ _ _ _ hnode
    exact hnode.2.trans hs₀
  case vc2 =>
    rename_i hs₀ _ _ _ _ _ hnode
    exact hnode.2.trans hs₀
  case vc3 =>
    rename_i hfound
    refine ⟨hfound.1, fun e he => ?_⟩
    obtain ⟨entries, hentries, hmem⟩ := List.mem_flatten.mp he
    exact hfound.2 entries (List.mem_reverse.mp hentries) e hmem

theorem flattened_succ (h : MergesAt bound) {id : Nat}
    (hbound : 4 * mergesLeft s₀.nodes + 3 ≤ bound + 1) :
    ⦃fun s => ⌜s = s₀⌝⦄ Markup.flattened (bound + 1) id
    ⦃post⟨fun entries s => ⌜s₀.Follows s ∧ Plain s.nodes entries⌝,
      fun f => ⌜f = .malformed⌝⟩⦄ := by
  have hflatten := h.flatten s₀ id (by omega)
  mvcgen [Markup.flattened, hflatten]
  case vc1 =>
    rename_i hs₀ _ _ hsome _ hentries
    subst hs₀
    rw [hentries.1, Option.isNone_iff_eq_none, ← Ne, Option.ne_none_iff_isSome] at hsome
    exact Node.isMapping_iff.mpr hsome
  case vc2 =>
    rename_i hs₀ _ _ _ _ hentries
    exact hentries.2.trans hs₀
  case vc3 =>
    rename_i hflat _ _ hentries
    obtain ⟨rfl, rfl⟩ := hentries
    exact hflat

end MergesAt

theorem mergesAt (bound : Nat) : MergesAt bound := by
  induction bound with
  | zero => exact mergesAt_zero
  | succ bound ih =>
    exact ⟨fun _ _ => ih.flatten_succ, fun _ _ => ih.takeMerges_succ,
      fun _ _ => ih.mergedEntries_succ, fun _ _ => ih.flattened_succ⟩

/-- The entries of a node, with those it merges, are no links. -/
theorem flattened_spec (id : Nat) (hbound : 4 * mergesLeft s₀.nodes + 3 ≤ s₀.bound) :
    ⦃fun s => ⌜s = s₀⌝⦄ flattened s₀.bound id
    ⦃post⟨fun entries s => ⌜s₀.Follows s ∧ Plain s.nodes entries⌝,
      fun f => ⌜f = .malformed⌝⟩⦄ :=
  (mergesAt s₀.bound).flattened s₀ id hbound

end ServiceBlueprint.Markup
