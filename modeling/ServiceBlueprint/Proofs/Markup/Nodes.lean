import Mathlib
import ServiceBlueprint.Markup.Node
import ServiceBlueprint.Proofs.Attempt
import ServiceBlueprint.Proofs.Triple

/-!
# What goes wrong while nodes are read

Whoever reads nodes refuses what is malformed. It fails in another way only where it needs a token
beyond those that there are, and then just as the reading of tokens ended.
-/

namespace ServiceBlueprint.Markup

open Std.Do

set_option mvcgen.warning false

/-- The tokens end with the given failure. -/
def ParserState.EndsIn (ending : Failure) (s : ParserState) : Prop :=
  s.ending = ending

/-- What is malformed, or the failure in which the tokens end. -/
def Ending (ending f : Failure) : Prop :=
  f = .malformed ∨ f = ending

/-- Fails as malformed or as the tokens end. -/
abbrev Parses (ending : Failure) {α : Type} (m : Parse α) : Prop :=
  ⦃fun s => ⌜s.EndsIn ending⌝⦄ m
  ⦃post⟨fun _ s => ⌜s.EndsIn ending⌝, fun f => ⌜Ending ending f⌝⟩⦄

variable {ending : Failure}

@[spec]
theorem reject_spec {α : Type} {Q : α → Assertion (.arg ParserState (.except Failure .pure))} :
    ⦃⌜True⌝⦄ (reject : Parse α) ⦃post⟨Q, fun f => ⌜Ending ending f⌝⟩⦄ :=
  fun _ _ => Or.inl rfl

@[spec]
theorem next_spec : Parses ending next := by
  intro s h
  obtain ⟨tokens, _, nodes, anchors, handles⟩ := s
  cases tokens with
  | nil => exact Or.inr h
  | cons t tokens => exact h

@[spec]
theorem drop_spec : Parses ending drop := by
  mvcgen [drop]

@[spec]
theorem accept_spec (t : Token) : Parses ending (accept t) := by
  mvcgen [accept]

@[spec]
theorem addNode_spec (n : Node) : Parses ending (addNode n) := by
  mvcgen [addNode]

@[spec]
theorem emptyNode_spec : Parses ending emptyNode := by
  mvcgen [emptyNode]

/-! ### Properties of a node -/

@[spec]
theorem expandTag_spec (handle : Option String) (suffix : String) :
    Parses ending (expandTag handle suffix) := by
  mvcgen [expandTag]

@[spec]
theorem acceptAnchor_spec : Parses ending acceptAnchor := by
  mvcgen [acceptAnchor]

@[spec]
theorem acceptTag_spec : Parses ending acceptTag := by
  mvcgen [acceptTag]

@[spec]
theorem properties_spec : Parses ending properties := by
  mvcgen [properties]

@[spec]
theorem checkAnchor_spec (p : Properties) : Parses ending (checkAnchor p) := by
  mvcgen [checkAnchor]

@[spec]
theorem setAnchor_spec (p : Properties) (id : Nat) : Parses ending (setAnchor p id) := by
  mvcgen [setAnchor]

@[spec]
theorem isOneOf_spec (ts : List Token) : Parses ending (isOneOf ts) := by
  mvcgen [isOneOf]

@[spec]
theorem reserve_spec (p : Properties) : Parses ending (reserve p) := by
  mvcgen [reserve]

@[spec]
theorem fill_spec (id : Nat) (n : Node) : Parses ending (fill id n) := by
  mvcgen [fill]

@[spec]
theorem bareNode_spec (p : Properties) : Parses ending (bareNode p) := by
  mvcgen [bareNode]

/-! ### Nodes -/

/-- What is read with a given amount of fuel. -/
structure ParsesAt (ending : Failure) (fuel : Nat) : Prop where
  node : ∀ place, Parses ending (parseNode place fuel)
  nodeUnless : ∀ stops place, Parses ending (parseUnless stops place fuel)
  value : ∀ stops place, Parses ending (parseValue stops place fuel)
  looseItems : Parses ending (parseLooseItems fuel)
  blockItems : Parses ending (parseBlockItems fuel)
  blockEntries : Parses ending (parseBlockEntries fuel)
  flowItems : ∀ first, Parses ending (parseFlowItems first fuel)
  flowEntries : ∀ first, Parses ending (parseFlowEntries first fuel)

theorem parsesAt (fuel : Nat) : ParsesAt ending fuel := by
  induction fuel with
  | zero =>
    constructor <;> intros <;>
      mvcgen [parseNode, parseUnless, parseValue, parseLooseItems, parseBlockItems,
        parseBlockEntries, parseFlowItems, parseFlowEntries]
  | succ fuel ih =>
    obtain ⟨hnode, hunless, hvalue, hloose, hitems, hentries, hflow, hpairs⟩ := ih
    constructor <;> intros <;>
      mvcgen [parseNode, parseUnless, parseValue, parseLooseItems, parseBlockItems,
        parseBlockEntries, parseFlowItems, parseFlowEntries, hnode, hunless, hvalue, hloose, hitems,
        hentries, hflow, hpairs]

/-! ### Documents -/

@[spec]
theorem parseDirectives_spec (fuel : Nat) (versioned : Bool) (handles : Table String String) :
    Parses ending (parseDirectives fuel versioned handles) := by
  induction fuel generalizing versioned handles with
  | zero => mvcgen [parseDirectives]
  | succ fuel ih => mvcgen [parseDirectives, ih]

@[spec]
theorem parseNode_spec (place : Place) (fuel : Nat) : Parses ending (parseNode place fuel) :=
  (parsesAt fuel).node place

@[spec]
theorem parseAnnounced_spec (fuel : Nat) : Parses ending (parseAnnounced fuel) := by
  mvcgen [parseAnnounced]

@[spec]
theorem parseFirst_spec (fuel : Nat) : Parses ending (parseFirst fuel) := by
  mvcgen [parseFirst]

@[spec]
theorem parseEnd_spec (fuel : Nat) : Parses ending (parseEnd fuel) := by
  induction fuel with
  | zero => mvcgen [parseEnd]
  | succ fuel ih => mvcgen [parseEnd, ih]

/-- The nodes of tokens are refused as malformed, or because the tokens end. -/
theorem ending_of_ofTokens {tokens : List Token} {f : Failure}
    (h : Graph.ofTokens tokens ending = .error f) : Ending ending f := by
  have hparse : Parses ending (do
      let root ← parseFirst (4 * tokens.length + 8)
      if root.isSome then parseEnd (4 * tokens.length + 8)
      return root) := by
    mvcgen
  have hrun := of_triple hparse (s := ⟨tokens, ending, #[], [], []⟩) rfl
  unfold Graph.ofTokens at h
  rcases Attempt.bind_eq_error.mp h with h | ⟨r, -, h⟩
  · rw [h] at hrun
    exact hrun
  · cases h

end ServiceBlueprint.Markup
