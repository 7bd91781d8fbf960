import Mathlib
import ServiceBlueprint.Gap.Chat
import ServiceBlueprint.Proofs.Text.Numerals

/-!
# What a conversation shows

A conversation has an opening, the groups of gaps by severity, and closing lines. Of a group it
shows all gaps, or as many as the limit allows and the number of those that are left. What is shown
depends on the limit alone. Markup is added within the lines, of which there are as many without it.
-/

namespace ServiceBlueprint.Gap

/-! ### The pieces of a group -/

inductive Piece where
  | heading (severity : Severity) (count : Nat)
  | item (gap : Gap)
  | remainder (count : Nat)

def Piece.lines (o : ChatOptions) : Piece → List String
  | heading s n => [Gap.heading o (groupTitle s) n]
  | item g => itemLines o g
  | remainder n => ["  ... and " ++ toString n ++ " more"]

/-- Which pieces a group has under a limit: none if it is empty, and otherwise its heading, the
first gaps up to the limit, or all, and the number of those that are left if there are any. A
negative limit is a limit of zero. -/
inductive ShowsGroup (limit : Option Int) (s : Severity) : List Gap → List Piece → Prop
  | empty : ShowsGroup limit s [] []
  | shown {front rest : List Gap} (hne : front ++ rest ≠ []) (hall : limit = none → rest = [])
      (hlimit : ∀ cap, limit = some cap →
        (front.length : Int) = min ((front ++ rest).length : Int) (max cap 0)) :
      ShowsGroup limit s (front ++ rest) (.heading s (front ++ rest).length ::
        (front.map .item ++ if rest.isEmpty then [] else [.remainder rest.length]))

/-- The number that a piece announces, if it does. -/
def Piece.count? : Piece → Option Nat
  | heading _ n => some n
  | item _ => none
  | remainder n => some n

/-- An announced number is the only number in its line. -/
theorem Piece.numbersIn_lines (o : ChatOptions) {p : Piece} {n : Nat} (h : p.count? = some n) :
    (p.lines o).flatMap numbersIn = [n] := by
  cases p with
  | heading s k =>
    cases h
    rw [lines, List.flatMap_singleton, Gap.heading]
    split <;> rw [numbersIn_append_right _ (by simp),
      numbersIn_append_of_forall (by cases s <;> simp [groupTitle]), numbersIn_toString]
  | item g => cases h
  | remainder k =>
    cases h
    rw [lines, List.flatMap_singleton, numbersIn_append_right _ (by simp),
      numbersIn_append_of_forall (by simp), numbersIn_toString]

theorem flatMap_lines_map_item (o : ChatOptions) (gaps : List Gap) :
    (gaps.map Piece.item).flatMap (Piece.lines o) = gaps.flatMap (itemLines o) := by
  rw [List.flatMap_map]
  rfl

/-- The lines of a group whose first part is shown, and the rest of which is announced. -/
theorem groupLines_append {o : ChatOptions} {front rest : List Gap} (s : Severity)
    (hne : front ++ rest ≠ []) (hshown : shownCount o (front ++ rest).length = front.length) :
    groupLines o (groupTitle s) (front ++ rest) =
      (Piece.heading s (front ++ rest).length :: (front.map .item ++
        if rest.isEmpty then [] else [.remainder rest.length])).flatMap (Piece.lines o) := by
  have hleft : (front ++ rest).length - front.length = rest.length := by
    rw [List.length_append, Nat.add_sub_cancel_left]
  rw [groupLines, if_neg (by simpa using hne), remainderLines, hshown, hleft, List.take_left,
    List.flatMap_cons, List.flatMap_append, flatMap_lines_map_item]
  cases rest <;> rfl

theorem exists_parts_shown (limit : Option Int) (gaps : List Gap) :
    ∃ front rest, gaps = front ++ rest ∧ (limit = none → rest = []) ∧
      (∀ cap, limit = some cap → (front.length : Int) = min (gaps.length : Int) (max cap 0)) ∧
      ∀ o : ChatOptions, o.maxPerCategory = limit →
        shownCount o gaps.length = front.length := by
  cases limit with
  | none =>
    refine ⟨gaps, [], (List.append_nil gaps).symm, fun _ => rfl, nofun, fun o ho => ?_⟩
    rw [shownCount, ho]
  | some cap =>
    have hlength : (gaps.take cap.toNat).length = min gaps.length cap.toNat := by
      rw [List.length_take, Nat.min_comm]
    refine ⟨gaps.take cap.toNat, gaps.drop cap.toNat, (List.take_append_drop ..).symm, nofun, ?_,
      fun o ho => ?_⟩
    · rintro _ ⟨⟩
      omega
    · rw [shownCount, ho, hlength]

/-- The pieces of a group give its lines, whatever else is chosen than the limit. -/
theorem exists_pieces (limit : Option Int) (s : Severity) (gaps : List Gap) :
    ∃ pieces, ShowsGroup limit s gaps pieces ∧ ∀ o : ChatOptions, o.maxPerCategory = limit →
      groupLines o (groupTitle s) gaps = pieces.flatMap (Piece.lines o) := by
  by_cases hne : gaps = []
  · subst hne
    exact ⟨[], .empty, fun o _ => rfl⟩
  · obtain ⟨front, rest, rfl, hall, hlimit, hshown⟩ := exists_parts_shown limit gaps
    exact ⟨_, .shown hne hall hlimit, fun o ho => groupLines_append s hne (hshown o ho)⟩

/-- What a conversation says before it comes to the groups. -/
def openingLines (r : Report) (o : ChatOptions) : List String :=
  if r.total = 0 then
    [bold o.useMarkdown "Configuration Analysis Complete", "",
      "No gaps detected. Your configuration appears complete and valid."]
  else [bold o.useMarkdown "Configuration Gaps Detected" ++ "\n", r.summary ++ "\n"]

theorem chatLines_eq (r : Report) (o : ChatOptions) :
    r.chatLines o = openingLines r o ++
      (Severity.all.flatMap fun s => groupLines o (groupTitle s) (r.ofSeverity s)) ++
      noticeLines o r.fixableCount := by
  rw [Report.chatLines, openingLines]
  split
  next htotal =>
    have hgaps : r.gaps = [] := List.length_eq_zero_iff.mp htotal
    have hgroups (s : Severity) : r.ofSeverity s = [] := by
      rw [Report.ofSeverity, hgaps]
      rfl
    simp [Report.fixableCount, Report.allGaps, Report.fixable, hgroups, groupLines, noticeLines]
  next => rfl

/-! ### Lines with and without markup -/

/-- Only line feeds are counted, which is what lines are joined by. -/
def lineBreaks (s : String) : Nat :=
  s.toList.count '\n'

theorem lineBreaks_append (s t : String) : lineBreaks (s ++ t) = lineBreaks s + lineBreaks t := by
  rw [lineBreaks, String.toList_append, List.count_append]
  rfl

/-- Lines that are joined have a break between any two, and those that they have themselves. -/
theorem lineBreaks_intercalate (lines : List String) :
    lineBreaks ("\n".intercalate lines) = ((lines.map lineBreaks).intersperse 1).sum := by
  induction lines with
  | nil => rfl
  | cons s rest ih =>
    cases rest with
    | nil => simp
    | cons t rest =>
      have hbreak : lineBreaks "\n" = 1 := rfl
      rw [String.intercalate_cons_cons, lineBreaks_append, lineBreaks_append, ih, hbreak]
      simp only [List.map_cons, List.intersperse_cons_cons, List.sum_cons, Nat.add_assoc]

theorem lineBreaks_bold (markdown : Bool) (s : String) :
    lineBreaks (bold markdown s) = lineBreaks s := by
  cases markdown with
  | false => rfl
  | true =>
    change lineBreaks ("**" ++ s ++ "**") = _
    rw [lineBreaks_append, lineBreaks_append]
    exact Nat.zero_add _

theorem lineBreaks_heading (o : ChatOptions) (title : String) (n : Nat) :
    lineBreaks (heading o title n) = lineBreaks title + lineBreaks (toString n) + 2 := by
  rw [heading]
  split
  all_goals
    simp only [lineBreaks_append]
    change 1 + _ + 0 + _ + 1 = _
    omega

theorem map_lineBreaks_itemLines (o : ChatOptions) (g : Gap) :
    (itemLines { o with useMarkdown := true } g).map lineBreaks =
      (itemLines { o with useMarkdown := false } g).map lineBreaks := by
  have hmark : lineBreaks "  - " = lineBreaks "  " := rfl
  simp only [itemLines, List.map_append, List.map_cons, lineBreaks_append, lineBreaks_bold,
    ↓reduceIte, Bool.false_eq_true, hmark]
  cases g.fix with
  | none => rfl
  | some f =>
    cases o.includeFixes with
    | false => rfl
    | true => simp only [↓reduceIte, List.map_cons, List.map_nil, lineBreaks_append, hmark]

theorem Piece.map_lineBreaks_lines (o : ChatOptions) (p : Piece) :
    (p.lines { o with useMarkdown := true }).map lineBreaks =
      (p.lines { o with useMarkdown := false }).map lineBreaks := by
  cases p with
  | heading s n =>
    rw [lines, lines, List.map_singleton, List.map_singleton, lineBreaks_heading,
      lineBreaks_heading]
  | item g => exact map_lineBreaks_itemLines o g
  | remainder n => rfl

theorem map_lineBreaks_openingLines (r : Report) (o : ChatOptions) :
    (openingLines r { o with useMarkdown := true }).map lineBreaks =
      (openingLines r { o with useMarkdown := false }).map lineBreaks := by
  rw [openingLines, openingLines]
  split
  · simp only [List.map_cons, lineBreaks_bold]
  · simp only [List.map_cons, lineBreaks_append, lineBreaks_bold]

theorem map_lineBreaks_noticeLines (o : ChatOptions) (n : Nat) :
    (noticeLines { o with useMarkdown := true } n).map lineBreaks =
      (noticeLines { o with useMarkdown := false } n).map lineBreaks := by
  rw [noticeLines, noticeLines]
  split
  · rfl
  · simp only [List.map_cons, lineBreaks_bold]

/-- The lines of a text, of which there is one more than there are breaks. -/
def lineCount (s : String) : Nat :=
  lineBreaks s + 1

theorem lineCount_chat (r : Report) (o : ChatOptions) :
    lineCount (r.chat { o with useMarkdown := true }) =
      lineCount (r.chat { o with useMarkdown := false }) := by
  obtain ⟨pieces, hpieces⟩ := Classical.skolem.mp fun s =>
    exists_pieces o.maxPerCategory s (r.ofSeverity s)
  have hlines (markdown : Bool) : r.chatLines { o with useMarkdown := markdown } =
      openingLines r { o with useMarkdown := markdown } ++
        (Severity.all.flatMap fun s =>
          (pieces s).flatMap (Piece.lines { o with useMarkdown := markdown })) ++
        noticeLines { o with useMarkdown := markdown } r.fixableCount := by
    rw [chatLines_eq]
    simp only [fun s => (hpieces s).2 { o with useMarkdown := markdown } rfl]
  rw [lineCount, lineCount, Report.chat, Report.chat, lineBreaks_intercalate,
    lineBreaks_intercalate, hlines, hlines]
  simp only [List.map_append, List.map_flatMap, map_lineBreaks_openingLines,
    map_lineBreaks_noticeLines, Piece.map_lineBreaks_lines]

/-- A conversation shows its groups in order, each by pieces that only the limit decides on, between
its opening and its closing lines. It has as many lines with markup as without. -/
theorem chat_shows (r : Report) (limit : Option Int) :
    ∃ pieces : Severity → List Piece,
      (∀ s, ShowsGroup limit s (r.ofSeverity s) (pieces s)) ∧
      (∀ o : ChatOptions, r.chat { o with maxPerCategory := limit } =
        "\n".intercalate (openingLines r o ++
          (pieces .critical ++ pieces .warning ++ pieces .suggestion).flatMap (Piece.lines o) ++
          noticeLines o r.fixableCount)) ∧
      (∀ (o : ChatOptions) (p : Piece) (n : Nat), p.count? = some n →
        (p.lines o).flatMap numbersIn = [n]) ∧
      ∀ o : ChatOptions,
        lineCount (r.chat { o with maxPerCategory := limit, useMarkdown := true }) =
          lineCount (r.chat { o with maxPerCategory := limit, useMarkdown := false }) := by
  obtain ⟨pieces, hpieces⟩ := Classical.skolem.mp fun s => exists_pieces limit s (r.ofSeverity s)
  refine ⟨pieces, fun s => (hpieces s).1, fun o => ?_, fun o p n => Piece.numbersIn_lines o,
    fun o => lineCount_chat r { o with maxPerCategory := limit }⟩
  rw [Report.chat, chatLines_eq]
  simp only [fun s => (hpieces s).2 { o with maxPerCategory := limit } rfl, Severity.all,
    List.flatMap_cons, List.flatMap_nil, List.flatMap_append, List.append_assoc, List.append_nil]
  rfl

end ServiceBlueprint.Gap
