import Mathlib
import ServiceBlueprint.Markup.Lexer
import ServiceBlueprint.Proofs.Text.Octets
import ServiceBlueprint.Proofs.Triple

/-!
# What goes wrong while tokens are read

Whatever reads a token leaves an end of the text unread, and refuses what is malformed. It fails
in another way at one place only: an escape of a code point beyond the last one, between double
quotes.
-/

namespace ServiceBlueprint.Markup

open Std.Do

set_option mvcgen.warning false

/-- The number that hexadecimal digits stand for. -/
def codeOf (ns : List Nat) : Nat :=
  ns.foldl (fun n d => 16 * n + d) 0

/-- The fault of a code point beyond the last one tells whether it fits in 31 bits. -/
def faultBeyond (code : Nat) : Fault :=
  if code < Nat.pow 2 31 then .invalidValue else .outOfRange

/-- The text has an escape of a code point beyond the last one. -/
def EscapesBeyond (text : List Char) (f : Fault) : Prop :=
  ∃ ds ns, '\\' :: 'U' :: ds <:+: text ∧ ds.mapM hexValue? = some ns ∧ ns.length = 8 ∧
    0x10ffff < codeOf ns ∧ f = faultBeyond (codeOf ns)

/-- A failure that the text accounts for. -/
def Accounted (text : List Char) (f : Failure) : Prop :=
  f = .malformed ∨ ∃ fault, f = .faulty fault ∧ EscapesBeyond text fault

/-- The given characters and what is left to read are an end of the text. -/
def Lexer.Behind (cs text : List Char) (s : Lexer) : Prop :=
  cs ++ s.cursor.rest <:+ text

/-- What is left to read is an end of the text. -/
def Lexer.Within (text : List Char) (s : Lexer) : Prop :=
  s.cursor.rest <:+ text

/-- Reads on in the text, or fails as the text accounts for. -/
abbrev Reads (text : List Char) {α : Type} (m : Lex α) : Prop :=
  ⦃fun s => ⌜s.Within text⌝⦄ m ⦃post⟨fun _ s => ⌜s.Within text⌝, fun f => ⌜Accounted text f⌝⟩⦄

variable {text : List Char}

/-! ### Moving on -/

theorem rest_step (c : Cursor) : c.step.rest = c.rest.tail := by
  unfold Cursor.step
  split
  next h => rw [h, List.tail_nil]
  next h =>
    rw [h, List.tail_cons]
    split
    · rfl
    · split <;> rfl

theorem rest_advance (n : Nat) (c : Cursor) : (Cursor.advance n c).rest = c.rest.drop n := by
  induction n generalizing c with
  | zero => rfl
  | succ n ih => rw [Cursor.advance, ih, rest_step, List.drop_tail]

theorem Lexer.Within.advance {s : Lexer} (h : s.Within text) (n : Nat) :
    Lexer.Within text { s with cursor := s.cursor.advance n } := by
  have hrest : (Cursor.advance n s.cursor).rest <:+ s.cursor.rest := by
    rw [rest_advance]
    exact List.drop_suffix n _
  exact hrest.trans h

theorem Lexer.Behind.within {s : Lexer} {cs : List Char} (h : s.Behind cs text) : s.Within text :=
  (List.suffix_append cs _).trans h

theorem Lexer.Behind.advance {s : Lexer} {cs : List Char} (h : s.Behind cs text) {c : Char}
    (hc : s.cursor.rest.head? = some c) :
    Lexer.Behind (cs ++ [c]) text { s with cursor := s.cursor.advance 1 } := by
  obtain ⟨rest, hrest⟩ := List.head?_eq_some_iff.mp hc
  have hadvance : (Cursor.advance 1 s.cursor).rest = rest := by
    rw [rest_advance, hrest, List.drop_one, List.tail_cons]
  rw [Behind, hrest, ← hadvance, List.append_cons] at h
  exact h

@[spec]
theorem refuse_spec {α : Type} {Q : α → Assertion (.arg Lexer (.except Failure .pure))} :
    ⦃⌜True⌝⦄ (refuse : Lex α) ⦃post⟨Q, fun f => ⌜Accounted text f⌝⟩⦄ :=
  fun _ _ => Or.inl rfl

@[spec]
theorem cursor_spec : Reads text cursor := by
  mvcgen [cursor]

@[spec]
theorem peekAt_spec (k : Nat) : Reads text (peekAt k) := by
  mvcgen [peekAt]

@[spec]
theorem peek_spec : Reads text peek := by
  mvcgen [peek]

@[spec]
theorem advance_spec (n : Nat) : Reads text (advance n) :=
  fun _ h => Lexer.Within.advance h n

@[spec]
theorem takeWhile_spec (p : Char → Bool) : Reads text (takeWhile p) := by
  mvcgen [takeWhile]

@[spec]
theorem skipWhile_spec (p : Char → Bool) : Reads text (skipWhile p) := by
  mvcgen [skipWhile]

@[spec]
theorem fuelForRest_spec : Reads text fuelForRest := by
  mvcgen [fuelForRest]

@[spec]
theorem emit_spec (t : Token) : Reads text (emit t) := by
  mvcgen [emit]

@[spec]
theorem allowKey_spec (allowed : Bool) : Reads text (allowKey allowed) := by
  mvcgen [allowKey]

@[spec]
theorem inFlow_spec : Reads text inFlow := by
  mvcgen [inFlow]

@[spec]
theorem column_spec : Reads text column := by
  mvcgen [column]

@[spec]
theorem lineBreak_spec : Reads text lineBreak := by
  mvcgen [lineBreak]

/-! ### Steps one after another -/

theorem Reads.bind {α β : Type} {x : Lex α} {f : α → Lex β} (hx : Reads text x)
    (hf : ∀ a, Reads text (f a)) : Reads text (x >>= f) := by
  mvcgen [hx, hf]

theorem Reads.ite {α : Type} {c : Prop} [Decidable c] {x y : Lex α} (hx : Reads text x)
    (hy : Reads text y) : Reads text (if c then x else y) := by
  mvcgen [hx, hy]

theorem Reads.pure {α : Type} (a : α) : Reads text (pure a : Lex α) := by
  mvcgen

theorem reads_refuse {α : Type} : Reads text (refuse : Lex α) := by
  mvcgen

/-! ### Keys and indentation -/

@[spec]
theorem dropStaleKeys_spec : Reads text dropStaleKeys := by
  mvcgen [dropStaleKeys]

@[spec]
theorem pendingKey_spec : Reads text pendingKey? := by
  mvcgen [pendingKey?]

@[spec]
theorem forgetKey_spec : Reads text forgetKey := by
  mvcgen [forgetKey]

@[spec]
theorem dropKey_spec : Reads text dropKey := by
  mvcgen [dropKey]

@[spec]
theorem rememberKey_spec : Reads text rememberKey := by
  mvcgen [rememberKey]

theorem cursor_unwind (column : Int) (fuel : Nat) (s : Lexer) :
    (unwind column fuel s).cursor = s.cursor := by
  induction fuel generalizing s with
  | zero => rfl
  | succ fuel ih =>
    unfold unwind
    split
    · exact ih _
    · rfl

@[spec]
theorem unwindTo_spec (column : Int) : Reads text (unwindTo column) := by
  intro s h
  change Lexer.Within text (if s.flowLevel = 0 then _ else s)
  split
  · rwa [Lexer.Within, cursor_unwind]
  · exact h

@[spec]
theorem indentTo_spec (column : Int) : Reads text (indentTo column) := by
  mvcgen [indentTo]

/-! ### Plain scalars -/

@[spec]
theorem plainBreaks_spec (fuel : Nat) (soFar : List Char) :
    Reads text (plainBreaks fuel soFar) := by
  induction fuel generalizing soFar with
  | zero => mvcgen [plainBreaks]
  | succ fuel ih => mvcgen [plainBreaks, ih]

@[spec]
theorem plainSpaces_spec : Reads text plainSpaces := by
  mvcgen [plainSpaces]

@[spec]
theorem plainWords_spec (indent : Int) (fuel : Nat) (spaces soFar : List Char) :
    Reads text (plainWords indent fuel spaces soFar) := by
  induction fuel generalizing spaces soFar with
  | zero => mvcgen [plainWords]
  | succ fuel ih => mvcgen [plainWords, ih]

@[spec]
theorem plainScalar_spec : Reads text plainScalar := by
  mvcgen [plainScalar]

/-! ### Quoted scalars -/

@[spec]
theorem quotedBreaks_spec (fuel : Nat) (soFar : List Char) :
    Reads text (quotedBreaks fuel soFar) := by
  induction fuel generalizing soFar with
  | zero => mvcgen [quotedBreaks]
  | succ fuel ih => mvcgen [quotedBreaks, ih]

@[spec]
theorem quotedSpaces_spec : Reads text quotedSpaces := by
  mvcgen [quotedSpaces]

/-- Each digit counts sixteen times as much as the next one. -/
theorem codeOf_lt {ds : List Char} {ns : List Nat} (h : ds.mapM hexValue? = some ns) :
    codeOf ns < 16 ^ ns.length := by
  have hfold (n : Nat) :
      ns.foldl (fun n d => 16 * n + d) n < (n + 1) * 16 ^ ns.length := by
    induction ds generalizing ns n with
    | nil =>
      cases h
      simp
    | cons d ds ih =>
      rw [List.mapM_cons] at h
      obtain ⟨m, hm, h⟩ := Option.bind_eq_some_iff.mp h
      obtain ⟨ms, hms, h⟩ := Option.bind_eq_some_iff.mp h
      cases h
      have hrest := ih hms (16 * n + m)
      have hdigit := Json.hexValue?_lt hm
      calc (m :: ms).foldl (fun n d => 16 * n + d) n
          < (16 * n + m + 1) * 16 ^ ms.length := hrest
        _ ≤ (16 * (n + 1)) * 16 ^ ms.length := Nat.mul_le_mul_right _ (by omega)
        _ = (n + 1) * 16 ^ (m :: ms).length := by rw [List.length_cons]; ring
  simpa [codeOf] using hfold 0

theorem hexNumber_spec (rest : List Char) (count : Nat) :
    ⦃fun s => ⌜s.cursor.rest = rest⌝⦄ hexNumber count
    ⦃post⟨fun code s => ⌜s.cursor.rest <:+ rest ∧ ∃ ds ns, ds <+: rest ∧
        ds.mapM hexValue? = some ns ∧ ns.length = count ∧ code = codeOf ns⌝,
      fun f => ⌜Accounted text f⌝⟩⦄ := by
  mvcgen [hexNumber, -cursor_spec, cursor, -advance_spec, advance]
  rename_i s h ds ns hns hlength t
  subst h
  refine ⟨?_, ds, ns, List.take_prefix count _, hns, hlength, rfl⟩
  change (Cursor.advance count s.cursor).rest <:+ _
  rw [rest_advance]
  exact List.drop_suffix count _

@[spec]
theorem hexNumber_reads (count : Nat) : Reads text (hexNumber count) := by
  mvcgen [hexNumber]

theorem charOf_spec {code : Nat} (h : 0x10ffff < code → EscapesBeyond text (faultBeyond code)) :
    Reads text (charOf code) := by
  unfold charOf
  split
  · mvcgen
  · split
    · mvcgen
    next hbeyond =>
      -- whatever is thrown is the fault of the code point
      have hfault : Accounted text (.faulty (faultBeyond code)) :=
        Or.inr ⟨_, rfl, h (Nat.lt_of_not_le hbeyond)⟩
      unfold faultBeyond at hfault
      split
      next hfits =>
        rw [if_pos hfits] at hfault
        exact fun _ _ => hfault
      next hfits =>
        rw [if_neg hfits] at hfault
        exact fun _ _ => hfault

/-- Only the escape with eight digits reaches code points beyond the last one. -/
theorem escapesBeyond_of_digits {c : Char} {count : Nat} (hc : numberedEscape? c = some count)
    {rest ds : List Char} (hrest : '\\' :: c :: rest <:+ text) (hds : ds <+: rest) {ns : List Nat}
    (hns : ds.mapM hexValue? = some ns) (hlength : ns.length = count)
    (hbeyond : 0x10ffff < codeOf ns) : EscapesBeyond text (faultBeyond (codeOf ns)) := by
  have hlt := codeOf_lt hns
  rw [hlength] at hlt
  unfold numberedEscape? at hc
  split at hc <;> cases hc
  · omega
  · omega
  · have hprefix : '\\' :: 'U' :: ds <+: '\\' :: 'U' :: rest :=
      (List.prefix_append_right_inj ['\\', 'U']).mpr hds
    exact ⟨ds, ns, hprefix.isInfix.trans hrest.isInfix, hns, hlength, hbeyond, rfl⟩

@[spec]
theorem escaped_spec :
    ⦃fun s => ⌜s.Behind ['\\'] text⌝⦄ escaped
    ⦃post⟨fun _ s => ⌜s.Within text⌝, fun f => ⌜Accounted text f⌝⟩⦄ := by
  mvcgen [escaped, -hexNumber_reads, hexNumber_spec, charOf_spec, -peek_spec, peek, -peekAt_spec,
    peekAt, -cursor_spec, cursor, -advance_spec, advance]
  · exact Lexer.Within.advance (Lexer.Behind.within ‹_›) 1
  · rename_i s hbehind c hc _ _ _ count hcount t code s' h
    obtain ⟨-, ds, ns, hds, hns, hlength, rfl⟩ := h
    have hescape : Lexer.Behind ['\\', c] text t.2 :=
      hbehind.advance (by rwa [List.head?_eq_getElem?])
    exact escapesBeyond_of_digits hcount hescape hds hns hlength
  · rename_i s hbehind c hc _ _ _ count hcount t code s' h
    exact h.1.trans (Lexer.Within.advance hbehind.within 1)
  · exact Lexer.Behind.within ‹_›

@[spec]
theorem quotedText_spec (double : Bool) (fuel : Nat) (soFar : List Char) :
    Reads text (quotedText double fuel soFar) := by
  induction fuel generalizing soFar with
  | zero => mvcgen [quotedText]
  | succ fuel ih =>
    mvcgen [quotedText, ih, -cursor_spec, cursor, -advance_spec, advance]
    · exact Lexer.Within.advance ‹_› 2
    · exact Lexer.Within.advance ‹_› 1
    · rename_i hwithin _ _ hrest _ _ hescape _
      obtain rfl := of_decide_eq_true (Bool.and_eq_true_iff.mp hescape).2
      have hbehind : Lexer.Behind [] text _ := hwithin
      exact hbehind.advance (by rw [hrest]; rfl)
    · exact Lexer.Within.advance ‹_› 1

@[spec]
theorem quotedScalar_spec (double : Bool) : Reads text (quotedScalar double) := by
  mvcgen [quotedScalar]

/-! ### Block scalars -/

@[spec]
theorem acceptChomping_spec : Reads text acceptChomping := by
  mvcgen [acceptChomping]

@[spec]
theorem acceptIncrement_spec : Reads text acceptIncrement := by
  mvcgen [acceptIncrement]

@[spec]
theorem blockHeader_spec : Reads text blockHeader := by
  mvcgen [blockHeader]

@[spec]
theorem ignoredLine_spec : Reads text ignoredLine := by
  mvcgen [ignoredLine]

@[spec]
theorem blockIndentation_spec (fuel : Nat) (soFar : List Char) (deepest : Nat) :
    Reads text (blockIndentation fuel soFar deepest) := by
  induction fuel generalizing soFar deepest with
  | zero => mvcgen [blockIndentation]
  | succ fuel ih => mvcgen [blockIndentation, ih]

@[spec]
theorem skipIndent_spec (indent : Nat) : Reads text (skipIndent indent) := by
  mvcgen [skipIndent]

@[spec]
theorem blockBreaks_spec (indent fuel : Nat) (soFar : List Char) :
    Reads text (blockBreaks indent fuel soFar) := by
  induction fuel generalizing soFar with
  | zero => mvcgen [blockBreaks]
  | succ fuel ih => mvcgen [blockBreaks, ih]

@[spec]
theorem blockLines_spec (folded : Bool) (indent fuel : Nat) (breaks soFar : List Char) :
    Reads text (blockLines folded indent fuel breaks soFar) := by
  induction fuel generalizing breaks soFar with
  | zero => mvcgen [blockLines]
  | succ fuel ih => mvcgen [blockLines, ih]

@[spec]
theorem blockScalar_spec (folded : Bool) : Reads text (blockScalar folded) := by
  mvcgen [blockScalar]

/-! ### Names, tags and directives -/

@[spec]
theorem name_spec : Reads text name := by
  mvcgen [name]

@[spec]
theorem anchorName_spec : Reads text anchorName := by
  unfold anchorName
  apply Reads.bind (advance_spec 1)
  intro _
  apply Reads.bind name_spec
  intro s
  apply Reads.bind peek_spec
  intro next
  exact Reads.ite (Reads.pure s) reads_refuse

@[spec]
theorem uriOctets_spec (fuel : Nat) (soFar : List UInt8) :
    Reads text (uriOctets fuel soFar) := by
  induction fuel generalizing soFar with
  | zero => mvcgen [uriOctets]
  | succ fuel ih => mvcgen [uriOctets, ih]

@[spec]
theorem uriChars_spec (fuel : Nat) (soFar : List Char) :
    Reads text (uriChars fuel soFar) := by
  induction fuel generalizing soFar with
  | zero => mvcgen [uriChars]
  | succ fuel ih => mvcgen [uriChars, ih]

@[spec]
theorem uri_spec : Reads text uri := by
  mvcgen [uri]

@[spec]
theorem tagHandle_spec : Reads text tagHandle := by
  mvcgen [tagHandle]

@[spec]
theorem tagToken_spec : Reads text tagToken := by
  mvcgen [tagToken]

@[spec]
theorem directiveNumber_spec : Reads text directiveNumber := by
  mvcgen [directiveNumber]

@[spec]
theorem versionDirective_spec : Reads text versionDirective := by
  mvcgen [versionDirective]

@[spec]
theorem handleDirective_spec : Reads text handleDirective := by
  mvcgen [handleDirective]

@[spec]
theorem directiveToken_spec : Reads text directiveToken := by
  mvcgen [directiveToken]

/-! ### Tokens -/

@[spec]
theorem insertToken_spec (n : Nat) (t : Token) : Reads text (insertToken n t) := by
  mvcgen [insertToken]

@[spec]
theorem leaveBlocks_spec : Reads text leaveBlocks := by
  mvcgen [leaveBlocks]

@[spec]
theorem lexStreamEnd_spec : Reads text lexStreamEnd := by
  mvcgen [lexStreamEnd]

@[spec]
theorem lexSeparator_spec (t : Token) : Reads text (lexSeparator t) := by
  mvcgen [lexSeparator]

@[spec]
theorem lexFlowStart_spec (t : Token) : Reads text (lexFlowStart t) := by
  mvcgen [lexFlowStart]

@[spec]
theorem lexFlowEnd_spec (t : Token) : Reads text (lexFlowEnd t) := by
  mvcgen [lexFlowEnd]

@[spec]
theorem lexFlowEntry_spec : Reads text lexFlowEntry := by
  mvcgen [lexFlowEntry]

@[spec]
theorem openBlock_spec (start : Token) : Reads text (openBlock start) := by
  mvcgen [openBlock]

@[spec]
theorem lexBlockEntry_spec : Reads text lexBlockEntry := by
  mvcgen [lexBlockEntry]

@[spec]
theorem lexKey_spec : Reads text lexKey := by
  mvcgen [lexKey]

@[spec]
theorem lexValue_spec : Reads text lexValue := by
  mvcgen [lexValue]

theorem lexNode_spec {read : Lex Token} (h : Reads text read) : Reads text (lexNode read) := by
  mvcgen [lexNode, h]

@[spec]
theorem lexBlockScalar_spec (folded : Bool) : Reads text (lexBlockScalar folded) := by
  mvcgen [lexBlockScalar]

@[spec]
theorem skipToToken_spec (fuel : Nat) :
    Reads text (skipToToken fuel) := by
  induction fuel with
  | zero => mvcgen [skipToToken]
  | succ fuel ih => mvcgen [skipToToken, ih]

theorem lexToken_spec : Reads text lexToken := by
  unfold lexToken
  apply Reads.bind cursor_spec
  intro c
  extract_lets afterMark
  have hafter (u : Unit) : Reads text (afterMark u) := by
    dsimp only [afterMark]
    apply Reads.bind fuelForRest_spec
    intro fuel
    apply Reads.bind (skipToToken_spec fuel)
    intro _
    apply Reads.bind dropStaleKeys_spec
    intro _
    apply Reads.bind column_spec
    intro col
    apply Reads.bind (unwindTo_spec col)
    intro _
    apply Reads.bind cursor_spec
    intro here
    apply Reads.bind inFlow_spec
    intro flow
    split
    · exact lexStreamEnd_spec
    · have halias : Reads text (lexNode do return Token.alias (← anchorName)) :=
        lexNode_spec (Reads.bind anchorName_spec fun s => Reads.pure (Token.alias s))
      have hanchor : Reads text (lexNode do return Token.anchor (← anchorName)) :=
        lexNode_spec (Reads.bind anchorName_spec fun s => Reads.pure (Token.anchor s))
      refine Reads.ite (Reads.bind leaveBlocks_spec fun _ =>
        Reads.bind directiveToken_spec emit_spec) ?_
      refine Reads.ite (lexSeparator_spec _) (Reads.ite (lexSeparator_spec _) ?_)
      refine Reads.ite (lexFlowStart_spec _) (Reads.ite (lexFlowStart_spec _) ?_)
      refine Reads.ite (lexFlowEnd_spec _) (Reads.ite (lexFlowEnd_spec _) ?_)
      refine Reads.ite lexFlowEntry_spec (Reads.ite lexBlockEntry_spec ?_)
      refine Reads.ite lexKey_spec (Reads.ite lexValue_spec ?_)
      refine Reads.ite halias (Reads.ite hanchor (Reads.ite (lexNode_spec tagToken_spec) ?_))
      refine Reads.ite (lexBlockScalar_spec _) (Reads.ite (lexBlockScalar_spec _) ?_)
      refine Reads.ite (lexNode_spec (quotedScalar_spec _)) ?_
      refine Reads.ite (lexNode_spec (quotedScalar_spec _)) ?_
      exact Reads.ite (lexNode_spec plainScalar_spec) reads_refuse
  exact Reads.ite (Reads.bind (advance_spec 1) hafter) (hafter ())

/-! ### The tokens of a text -/

theorem accounted_of_lexAll {fuel : Nat} {s : Lexer} (hs : s.Within text) :
    Accounted text (lexAll fuel s).2 := by
  induction fuel generalizing s with
  | zero => exact Or.inl rfl
  | succ fuel ih =>
    have hrun := of_triple lexToken_spec hs
    unfold lexAll
    split at hrun
    next hok =>
      rw [hok]
      dsimp only
      split
      · exact Or.inl rfl
      · exact ih hrun
    next hfailed =>
      rw [hfailed]
      exact hrun

/-- The tokens of a text end at a failure that the text accounts for. -/
theorem accounted_of_ofText (text : String) : Accounted text.toList (Token.ofText text).2 := by
  unfold Token.ofText
  split
  · exact accounted_of_lexAll List.suffix_rfl
  · exact Or.inl rfl

end ServiceBlueprint.Markup
