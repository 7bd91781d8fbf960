import Mathlib
import ServiceBlueprint.Proofs.Attempt
import ServiceBlueprint.Proofs.Markup.Escapes
import ServiceBlueprint.Proofs.Markup.Merging
import ServiceBlueprint.Proofs.Markup.Nodes

/-!
# What goes wrong while a graph is given content

Giving a graph content only ever takes links from its nodes, so what a node stands for
can be told from the graph alone. A fault is then due to a scalar that cannot be read under the tag
of a node that stands for it, or to a mapping that stands for a moment or for itself. The fault of a
text is due to its graph in this way, or to an escape.
-/

namespace ServiceBlueprint.Markup

open Std.Do

set_option mvcgen.warning false

variable {g : Array Node} {s₀ : FillState}

/-! ### What spoils a graph -/

/-- A fault that the nodes of a graph are to blame for. -/
inductive Spoilt (g : Array Node) : Fault → Prop where
  /-- A node stands for a scalar whose text cannot be read under the tag of the node. -/
  | scalar {i j : Nat} {text : String} {f : Fault}
      (hstands : Relation.ReflTransGen (StandsFor g) i j)
      (htext : (nodeIn g j).text? = some text)
      (hread : readScalar (nodeIn g i).tag text = .error (.faulty f)) : Spoilt g f
  /-- A mapping stands for a moment. -/
  | moment {i j : Nat} (htag : (nodeIn g i).tag = .timestamp)
      (hstands : Relation.TransGen (StandsFor g) i j) : Spoilt g .wrongType
  /-- A mapping stands for itself. -/
  | cycle {i : Nat} (hcycle : Relation.TransGen (StandsFor g) i i) : Spoilt g .tooDeep

/-- A failure that is no fault, or a fault that the nodes are to blame for. -/
def Blamed (g : Array Node) (f : Failure) : Prop :=
  ∀ e, f = .faulty e → Spoilt g e

/-- The nodes have evolved from those of a graph, and the bound is the one for the graph. -/
structure Filled (g : Array Node) (s : FillState) : Prop where
  nodes : Evolves g s.nodes
  bound : s.bound = 5 * weight g + 8

/-- A step of giving a graph content. -/
abbrev Fills {α : Type} (g : Array Node) (m : Fill α) : Prop :=
  ⦃fun s => ⌜Filled g s⌝⦄ m ⦃post⟨fun _ s => ⌜Filled g s⌝, fun f => ⌜Blamed g f⌝⟩⦄

theorem blamed_malformed : Blamed g .malformed := fun _ h => nomatch h

/-! ### What a node stands for -/

theorem Evolves.standsFor {nodes nodes' : Array Node} (h : Evolves nodes nodes') {i j : Nat}
    (hij : StandsFor nodes' i j) : StandsFor nodes i j := by
  obtain ⟨e, he, hvalue⟩ := hij
  exact ⟨e, (h.under .standard (Or.inr rfl) i).subset he, hvalue⟩

theorem standsFor_of_find? {id value : Nat} {tag found : Tag} {entries : List (Nat × Nat)}
    (hnode : nodeIn g id = .mapping tag entries)
    (hfound : (entries.map fun e => ((nodeIn g e.1).tag, e.2)).find? (·.1 = .standard) =
      some (found, value)) :
    StandsFor g id value := by
  have hstandard := List.find?_some hfound
  obtain ⟨e, he, hpair⟩ := List.mem_map.mp (List.mem_of_find?_eq_some hfound)
  cases hpair
  refine ⟨e, List.mem_filter.mpr ⟨?_, hstandard⟩, rfl⟩
  rw [hnode]
  exact he

theorem tagged_spec (entries : List (Nat × Nat)) :
    ⦃fun s => ⌜s = s₀⌝⦄
    (entries.mapM fun e => return ((← nodeAt e.1).tag, e.2) : Fill (List (Tag × Nat)))
    ⦃⇓ tagged s => ⌜tagged = entries.map (fun e => ((nodeIn s₀.nodes e.1).tag, e.2)) ∧
      s = s₀⌝⦄ :=
  mapM_nodeAt_spec Prod.fst (fun n e => (n.tag, e.2)) entries

/-- The text of a scalar that the node stands for. It is looked for along a chain that ends in the
node, which only meets the bound if it comes back to a node. -/
theorem textOf_spec (hevolves : Evolves g s₀.nodes) {bound : Nat} {path : List Nat} (id : Nat)
    (hchain : (id :: path).IsChain fun a b => StandsFor g b a)
    (hbound : g.size < bound + path.length) :
    ⦃fun s => ⌜s = s₀⌝⦄ textOf bound id
    ⦃post⟨fun text s => ⌜s = s₀ ∧ ∃ j, Relation.ReflTransGen (StandsFor g) id j ∧
        (nodeIn g j).text? = some text⌝,
      fun f => ⌜Blamed g f⌝⟩⦄ := by
  induction bound generalizing path id with
  | zero =>
    obtain ⟨i, hcycle⟩ := exists_cycle_of_isChain hchain (by omega)
    rintro s - e ⟨⟩
    exact .cycle hcycle
  | succ bound ih =>
    have hnext (value : Nat) (hvalue : StandsFor g id value) :
        ⦃fun s => ⌜s = s₀⌝⦄ textOf bound value
        ⦃post⟨fun text s => ⌜s = s₀ ∧ ∃ j, Relation.ReflTransGen (StandsFor g) id j ∧
            (nodeIn g j).text? = some text⌝,
          fun f => ⌜Blamed g f⌝⟩⦄ := by
      have htext := ih value (List.isChain_cons_cons.mpr ⟨hvalue, hchain⟩)
        (by rw [List.length_cons]; omega)
      mvcgen [htext]
      rintro hs₀ ⟨j, hstands, htext⟩
      exact ⟨hs₀, j, hstands.head hvalue, htext⟩
    mvcgen [textOf, hnext, tagged_spec]
    case vc1 =>
      rename_i hs₀ _ _ _ _ _ hnode
      subst hs₀
      obtain ⟨hnode, rfl⟩ := hnode
      refine ⟨rfl, id, .refl, ?_⟩
      rw [← hevolves.text?, ← hnode]
      rfl
    case vc2 => exact blamed_malformed
    case vc3 =>
      rename_i hs₀ _ _ _ _ _ hnode _ _ _ _ _ htagged
      exact htagged.2.trans (hnode.2.trans hs₀)
    case vc4 =>
      rename_i hs₀ _ _ _ _ _ hnode _ _ _ hfound
      subst hs₀
      obtain ⟨hnode, rfl⟩ := hnode
      rintro _ htagged -
      rw [htagged] at hfound
      exact hevolves.standsFor (standsFor_of_find? hnode.symm hfound)
    case vc5 => exact blamed_malformed

theorem textOf_filled (h : Filled g s₀) (id : Nat) :
    ⦃fun s => ⌜s = s₀⌝⦄ textOf s₀.bound id
    ⦃post⟨fun text s => ⌜s = s₀ ∧ ∃ j, Relation.ReflTransGen (StandsFor g) id j ∧
        (nodeIn g j).text? = some text⌝,
      fun f => ⌜Blamed g f⌝⟩⦄ := by
  have hsize := mergesLeft_add_size_le g
  exact textOf_spec h.nodes id (List.isChain_singleton id) (by rw [h.bound]; omega)

theorem flattened_filled (h : Filled g s₀) (id : Nat) :
    ⦃fun s => ⌜s = s₀⌝⦄ flattened s₀.bound id
    ⦃post⟨fun _ s => ⌜Filled g s⌝, fun f => ⌜Blamed g f⌝⟩⦄ := by
  have hleft := mergesLeft_add_size_le g
  have hle := h.nodes.mergesLeft_le
  have hbound : 4 * mergesLeft s₀.nodes + 3 ≤ s₀.bound := by
    rw [h.bound]
    omega
  have hflat := flattened_spec id hbound
  mvcgen [hflat]
  · exact fun hfollows _ => ⟨h.nodes.trans hfollows.nodes, hfollows.bound.trans h.bound⟩
  · rintro rfl
    exact blamed_malformed

@[spec]
theorem isScalar_spec (id : Nat) :
    ⦃fun s => ⌜s = s₀⌝⦄ isScalar id
    ⦃⇓ b s => ⌜b = (nodeIn s₀.nodes id).text?.isSome ∧ s = s₀⌝⦄ := by
  mvcgen [isScalar] with grind [Node.text?]

@[spec]
theorem readScalar_spec (tag : Tag) (text : String) :
    ⦃fun s => ⌜s = s₀⌝⦄ (MonadLift.monadLift (readScalar tag text) : Fill Value)
    ⦃post⟨fun _ s => ⌜s = s₀⌝, fun f => ⌜readScalar tag text = .error f⌝⟩⦄ := by
  rintro s rfl
  cases readScalar tag text <;> rfl

theorem throw_spec {α : Type} {f : Failure}
    {Q : PostCond α (.arg FillState (.except Failure .pure))} :
    ⦃fun _ => Q.2.1 f⦄ (throw f : Fill α) ⦃Q⦄ :=
  fun _ h => h

/-! ### Entering nodes -/

theorem Evolves.tag_eq {nodes nodes' : Array Node} (h : Evolves nodes nodes') {id : Nat}
    (htext : (nodeIn nodes' id).tag ≠ .text) : (nodeIn nodes' id).tag = (nodeIn nodes id).tag :=
  (h.tag id).resolve_right fun hretagged => htext hretagged.2

theorem blamed_of_readScalar {nodes : Array Node} (h : Evolves g nodes) {id j : Nat}
    {text : String} (hstands : Relation.ReflTransGen (StandsFor g) id j)
    (htext : (nodeIn g j).text? = some text) {f : Failure}
    (hread : readScalar (nodeIn nodes id).tag text = .error f) : Blamed g f := by
  rintro e rfl
  -- only a key that became text may have another tag in the graph, and text can always be read
  have htag : (nodeIn nodes id).tag ≠ .text := by
    intro htag
    rw [htag] at hread
    cases hread
  rw [h.tag_eq htag] at hread
  exact .scalar hstands htext hread

theorem blamed_moment {nodes : Array Node} (h : Evolves g nodes) {id j : Nat} {text : String}
    (htag : (nodeIn nodes id).tag = .timestamp) (hother : (nodeIn nodes id).text?.isSome = false)
    (hstands : Relation.ReflTransGen (StandsFor g) id j)
    (htext : (nodeIn g j).text? = some text) : Blamed g (.faulty .wrongType) := by
  rintro e ⟨⟩
  rw [h.tag_eq (by rw [htag]; decide)] at htag
  rw [h.text?] at hother
  rcases Relation.reflTransGen_iff_eq_or_transGen.mp hstands with rfl | hstands
  · rw [htext] at hother
    cases hother
  · exact .moment htag hstands

theorem wholeContent_spec (h : Filled g s₀) (tag : Tag) (id : Nat)
    (htag : tag = (nodeIn s₀.nodes id).tag) :
    ⦃fun s => ⌜s = s₀⌝⦄ wholeContent tag id
    ⦃post⟨fun _ s => ⌜Filled g s⌝, fun f => ⌜Blamed g f⌝⟩⦄ := by
  have htext (s : FillState) (h : Filled g s) := textOf_filled h id
  mvcgen [wholeContent, htext, throw_spec, readScalar_spec, -Spec.throw_MonadExcept,
    -Spec.monadLift_StateT]
  case vc1 hs₀ => exact hs₀ ▸ h
  case vc2 =>
    rename_i hs₀ _ _ hreached _ _ hmoment _ hscalar
    subst hs₀ htag
    obtain ⟨rfl, j, hstands, htext⟩ := hreached
    rw [hscalar.1, Bool.not_eq_true'] at hmoment
    exact blamed_moment h.nodes hmoment.1 hmoment.2 hstands htext
  case vc3 => grind
  case vc4 =>
    rename_i hs₀ _ _ hreached _ _ _ _ _ _
    subst hs₀ htag
    obtain ⟨-, j, hstands, htext⟩ := hreached
    exact blamed_of_readScalar h.nodes hstands htext

@[spec]
theorem setContent_fills (id : Nat) (c : Content) : Fills g (setContent id c) := by
  rintro s h
  exact ⟨h.nodes, h.bound⟩

@[spec]
theorem initialContent_fills (id : Nat) : Fills g (initialContent id) := by
  have hwhole (s : FillState) (h : Filled g s) (tag : Tag) := wholeContent_spec h tag id
  mvcgen [initialContent, hwhole] with grind [blamed_malformed]

@[spec]
theorem enter_fills (id : Nat) : Fills g (enter id) := by
  mvcgen [enter]
  rename_i hfilled _
  exact ⟨hfilled.nodes, hfilled.bound⟩

@[spec]
theorem enterKey_fills (id : Nat) : Fills g (enterKey id) := by
  mvcgen [enterKey]
  exact blamed_malformed

/-! ### Filling collections -/

@[spec]
theorem enterEntries_fills (id : Nat) : Fills g (enterEntries id) := by
  have hflat (s : FillState) (h : Filled g s) := flattened_filled h id
  mvcgen [enterEntries, hflat] invariants
  · post⟨fun ⟨_, _⟩ s => ⌜Filled g s⌝, fun f => ⌜Blamed g f⌝⟩
  case vc7 => exact fun hblamed => hblamed
  case vc8 => exact fun hblamed => hblamed

theorem nodeAt_fills (id : Nat) : Fills g (nodeAt id) := fun _ h => h

@[spec]
theorem enterPair_fills (id : Nat) : Fills g (enterPair id) := by
  mvcgen [enterPair, -nodeAt_spec, nodeAt_fills]
  exact blamed_malformed

@[spec]
theorem itemsOf_fills (id : Nat) : Fills g (itemsOf id) := by
  mvcgen [itemsOf, -nodeAt_spec, nodeAt_fills]
  exact blamed_malformed

theorem mapM_fills {α β : Type} {f : α → Fill β} (h : ∀ x, Fills g (f x)) (xs : List α) :
    Fills g (xs.mapM f) := by
  induction xs with
  | nil => mvcgen
  | cons x xs ih =>
    rw [List.mapM_cons]
    mvcgen [h, ih]

@[spec]
theorem fillContent_fills (id : Nat) (c : Content) : Fills g (fillContent id c) := by
  cases c with
  | list =>
    mvcgen [fillContent] invariants
    · post⟨fun ⟨_, _⟩ s => ⌜Filled g s⌝, fun f => ⌜Blamed g f⌝⟩
    case vc5 => exact fun hblamed => hblamed
  | map => mvcgen [fillContent]
  | set => mvcgen [fillContent]
  | pairs =>
    have hpairs (items : List Nat) := mapM_fills (g := g) enterPair_fills items
    mvcgen [fillContent, hpairs]
  | whole => mvcgen [fillContent]

/-- Whatever is still to be filled, only nodes that are to blame make it fail. -/
theorem fillWaiting_fills (n : Nat) : Fills g (fillWaiting n) := by
  induction n with
  | zero => mvcgen [fillWaiting]
  | succ n ih =>
    mvcgen [fillWaiting, ih]
    case vc2 hfilled _ _ _ _ _ _ => exact ⟨hfilled.nodes, hfilled.bound⟩
    case vc5 hfilled _ _ _ _ _ => exact ⟨hfilled.nodes, hfilled.bound⟩

/-- A graph whose value faults is spoilt. -/
theorem spoilt_of_toValue {g : Graph} {f : Fault} (h : g.toValue = .error (.faulty f)) :
    Spoilt g.nodes f := by
  cases hroot : g.root with
  | none =>
    rw [Graph.toValue, hroot] at h
    cases h
  | some root =>
    have hfill : Fills g.nodes (do let _ ← enter root; fillWaiting (g.nodes.size + 1)) := by
      have hwaiting := fillWaiting_fills (g := g.nodes)
      mvcgen [hwaiting]
    have hrun := of_triple hfill (s := ⟨g.nodes, Array.replicate g.nodes.size none, [],
      5 * weight g.nodes + 8⟩) ⟨.refl _, rfl⟩
    simp only [Graph.toValue, hroot] at h
    rw [← weight] at h
    split at hrun
    next hok =>
      rw [hok] at h
      cases h
    next e herror =>
      rw [herror] at h
      cases h
      exact hrun f rfl

/-- A fault that a text is to blame for: it escapes a code point beyond the last one, or its graph
is spoilt. -/
def Spoils (text : String) (f : Fault) : Prop :=
  EscapesBeyond text.toList f ∨
    ∃ g, Graph.ofTokens (Token.ofText text).1 (Token.ofText text).2 = .ok g ∧ Spoilt g.nodes f

theorem spoils_of_read {text : String} {f : Fault} (h : read text = .error (.faulty f)) :
    Spoils text f := by
  have hparts : read text =
      (Graph.ofTokens (Token.ofText text).1 (Token.ofText text).2).bind Graph.toValue := rfl
  rw [hparts] at h
  rcases Attempt.bind_eq_error.mp h with hparse | ⟨g, hg, hvalue⟩
  · rcases ending_of_ofTokens hparse with hmalformed | hending
    · cases hmalformed
    · rcases accounted_of_ofText text with hmalformed | ⟨fault, hfault, hescapes⟩
      · rw [← hending] at hmalformed
        cases hmalformed
      · rw [← hending] at hfault
        cases hfault
        exact Or.inl hescapes
  · exact Or.inr ⟨g, hg, spoilt_of_toValue hvalue⟩

/-- A mapping that stands for itself. -/
example : read "!!str &a \x7b=: *a\x7d" = .error (.faulty .tooDeep) := by
  cbv

end ServiceBlueprint.Markup
