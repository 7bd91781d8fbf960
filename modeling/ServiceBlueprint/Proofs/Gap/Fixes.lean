import Mathlib
import ServiceBlueprint.Gap.Listing
import ServiceBlueprint.Proofs.Text.Numerals

/-!
# What can be fixed, in all views of a report

The fixes of a report are those of its gaps, by severity and as the gaps were found. The listing
counts and marks them, the conversation announces their number, and the prompt gives their numbers
by severity. To ask for some ids is to leave out the fixes of the other gaps.
-/

namespace ServiceBlueprint.Gap

/-! ### Lines of a conversation -/

/-- The line that announces how many fixes there are. -/
def announcement (o : ChatOptions) (n : Nat) : String :=
  bold o.useMarkdown (counted n "gap has" "gaps have" ++ " automatic fixes available.")

/-- A conversation that offers `n` fixes announces them and asks whether to apply them, at its end,
and it does neither where there is nothing to offer. -/
structure Offers (o : ChatOptions) (lines : List String) (n : Nat) : Prop where
  announces : ∀ k, announcement o k ∈ lines ↔ k = n ∧ n ≠ 0
  number : numbersIn (announcement o n) = [n]
  asks : fixQuestion ∈ lines ↔ n ≠ 0
  last : n ≠ 0 → ["", announcement o n, fixQuestion] <:+ lines

/-- The first character of a line that is no mark-up for bold text. -/
def opening (line : String) : Option Char :=
  (line.toList.dropWhile (· = '*')).head?

/-- A line that opens otherwise than an announcement or a question does. -/
def IsOther (line : String) : Prop :=
  ∀ c, opening line = some c → c.isDigit = false ∧ c ≠ 'W'

/-- What follows the first character of a line does not matter. -/
theorem opening_append {s : String} {c : Char} (hs : s.toList.head? = some c) (hc : c ≠ '*')
    (t : String) : opening (s ++ t) = some c := by
  unfold opening
  rw [String.toList_append]
  cases h : s.toList with
  | nil =>
    rw [h] at hs
    cases hs
  | cons d ds =>
    rw [h] at hs
    cases hs
    simp [hc]

theorem opening_bold_append (o : ChatOptions) {s : String} {c : Char}
    (hs : s.toList.head? = some c) (hc : c ≠ '*') (t : String) :
    opening (bold o.useMarkdown s ++ t) = some c := by
  unfold bold
  split
  · have hmark : ("**" ++ s ++ "**" ++ t).toList = '*' :: '*' :: (s ++ ("**" ++ t)).toList := by
      simp
    rw [opening, hmark]
    exact opening_append hs hc ("**" ++ t)
  · exact opening_append hs hc t

theorem opening_bold (o : ChatOptions) {s : String} {c : Char} (hs : s.toList.head? = some c)
    (hc : c ≠ '*') : opening (bold o.useMarkdown s) = some c := by
  have h := opening_bold_append o hs hc ""
  rwa [String.append_empty] at h

theorem opening_announcement (o : ChatOptions) (n : Nat) :
    ∃ c, opening (announcement o n) = some c ∧ c.isDigit = true := by
  cases hds : Nat.toDigits 10 n with
  | nil => exact absurd hds Nat.toDigits_ne_nil
  | cons d ds =>
    have hd : d.isDigit = true := by
      have hmem : d ∈ Nat.toDigits 10 n := hds ▸ List.mem_cons_self
      exact Nat.isDigit_of_mem_toDigits (by omega) (by omega) hmem
    have hstar : d ≠ '*' := by
      rintro rfl
      cases hd
    refine ⟨d, opening_bold o ?_ hstar, hd⟩
    have hrepr : (toString n).toList = d :: ds := Nat.toList_repr.trans hds
    rw [counted, String.append_assoc, String.append_assoc, String.toList_append, hrepr]
    rfl

theorem announcement_not_isOther (o : ChatOptions) (n : Nat) : ¬ IsOther (announcement o n) := by
  intro h
  obtain ⟨c, hc, hdigit⟩ := opening_announcement o n
  rw [(h c hc).1] at hdigit
  cases hdigit

theorem fixQuestion_not_isOther : ¬ IsOther fixQuestion :=
  fun h => (h 'W' rfl).2 rfl

theorem isOther_of_opening {line : String} {c : Char} (h : opening line = some c)
    (hc : c.isDigit = false ∧ c ≠ 'W') : IsOther line := by
  intro d hd
  rw [h] at hd
  cases hd
  exact hc

theorem isOther_append {s : String} (t : String) {c : Char} (h : s.toList.head? = some c)
    (hc : c.isDigit = false ∧ c ≠ 'W' ∧ c ≠ '*') : IsOther (s ++ t) :=
  isOther_of_opening (opening_append h hc.2.2 t) ⟨hc.1, hc.2.1⟩

theorem isOther_of_mem_itemLines {o : ChatOptions} {g : Gap} {line : String}
    (h : line ∈ itemLines o g) : IsOther line := by
  have hdetail : ∀ s, IsOther ((if o.useMarkdown then "  - " else "  ") ++ s) := by
    intro s
    split <;> exact isOther_append s rfl (by decide)
  have hcaption : ∀ s t,
      IsOther ((if o.useMarkdown then "  - " else "  ") ++ s ++ t) := by
    intro s t
    rw [String.append_assoc]
    exact hdetail (s ++ t)
  unfold itemLines at h
  rcases List.mem_append.mp h with h | h
  · rcases List.mem_append.mp h with h | h
    · rcases List.mem_cons.mp h with rfl | h
      · exact isOther_append _ rfl (by decide)
      rcases List.mem_cons.mp h with rfl | h
      · exact hcaption _ _
      rcases List.mem_cons.mp h with rfl | h
      · exact hcaption _ _
      · cases h
    · split at h
      · split at h
        · rw [List.mem_singleton.mp h]
          exact hcaption _ _
        · cases h
      · cases h
  · split at h
    · rw [List.mem_singleton.mp h]
      exact isOther_append _ rfl (by decide)
    · cases h

theorem isOther_heading (o : ChatOptions) (title : String) (n : Nat) :
    IsOther (heading o title n) := by
  unfold heading
  split
  · simp only [String.append_assoc]
    exact isOther_append _ rfl (by decide)
  · simp only [String.append_assoc]
    exact isOther_append _ rfl (by decide)

theorem isOther_of_mem_remainderLines {o : ChatOptions} {n : Nat} {line : String}
    (h : line ∈ remainderLines o n) : IsOther line := by
  unfold remainderLines at h
  dsimp only at h
  split at h
  · cases h
  · rw [List.mem_singleton.mp h, String.append_assoc]
    exact isOther_append _ rfl (by decide)

theorem isOther_of_mem_groupLines {o : ChatOptions} {title : String} {gaps : List Gap}
    {line : String} (h : line ∈ groupLines o title gaps) : IsOther line := by
  unfold groupLines at h
  split at h
  · cases h
  · rcases List.mem_cons.mp h with rfl | h
    · exact isOther_heading o title _
    · rcases List.mem_append.mp h with h | h
      · obtain ⟨g, -, hg⟩ := List.mem_flatMap.mp h
        exact isOther_of_mem_itemLines hg
      · exact isOther_of_mem_remainderLines h

theorem isOther_summary (r : Report) : IsOther (r.summary ++ "\n") := by
  unfold Report.summary summarize
  split
  · exact isOther_append _ rfl (by decide)
  · simp only [String.append_assoc]
    exact isOther_append _ rfl (by decide)

theorem numbersIn_announcement (o : ChatOptions) (n : Nat) :
    numbersIn (announcement o n) = [n] := by
  have hnumber : numbersIn (counted n "gap has" "gaps have" ++ " automatic fixes available.") =
      [n] := by
    rw [numbersIn_append_right _ (by simp), numbersIn_counted n (by simp) (by simp)]
  unfold announcement bold
  split
  · rw [numbersIn_append_right _ (by simp), numbersIn_append_of_forall (by simp), hnumber]
  · exact hnumber

theorem announcement_injective (o : ChatOptions) {m n : Nat}
    (h : announcement o m = announcement o n) : m = n := by
  have hlist := numbersIn_announcement o m
  rw [h, numbersIn_announcement] at hlist
  exact (List.singleton_inj.mp hlist).symm

/-- The closing lines are all that offers anything, whatever other lines come first. -/
theorem offers_of_append {o : ChatOptions} (front : List String)
    (hfront : ∀ l ∈ front, IsOther l) (n : Nat) : Offers o (front ++ noticeLines o n) n := by
  have hannounced (k : Nat) : announcement o k ∉ front :=
    fun h => announcement_not_isOther o k (hfront _ h)
  have hasked : fixQuestion ∉ front := fun h => fixQuestion_not_isOther (hfront _ h)
  have hother (k : Nat) : announcement o k ≠ "" ∧ announcement o k ≠ fixQuestion := by
    obtain ⟨c, hc, hdigit⟩ := opening_announcement o k
    constructor <;> intro h <;> rw [h] at hc <;> cases hc
    cases hdigit
  unfold noticeLines
  by_cases hn : n = 0
  · subst hn
    rw [if_pos rfl, List.append_nil]
    exact ⟨fun k => by simp [hannounced k], numbersIn_announcement o 0, by simp [hasked],
      fun h => absurd rfl h⟩
  · rw [if_neg hn]
    refine ⟨?_, numbersIn_announcement o n, ?_, fun _ => List.suffix_append _ _⟩
    · intro k
      constructor
      · intro h
        rcases List.mem_append.mp h with h | h
        · exact absurd h (hannounced k)
        rcases List.mem_cons.mp h with h | h
        · exact absurd h (hother k).1
        rcases List.mem_cons.mp h with h | h
        · exact ⟨announcement_injective o h, hn⟩
        · exact absurd (List.mem_singleton.mp h) (hother k).2
      · rintro ⟨rfl, -⟩
        apply List.mem_append_right
        exact List.mem_cons_of_mem _ List.mem_cons_self
    · refine ⟨fun _ => hn, fun _ => ?_⟩
      apply List.mem_append_right
      exact List.mem_cons_of_mem _ (List.mem_cons_of_mem _ List.mem_cons_self)

theorem offers_chatLines (r : Report) (o : ChatOptions) :
    Offers o (r.chatLines o) r.fixableCount := by
  unfold Report.chatLines
  split
  next htotal =>
    have hnone : r.fixableCount = 0 := by
      have hgaps : r.gaps = [] := List.length_eq_zero_iff.mp htotal
      simp [Report.fixableCount, Report.allGaps, Report.ofSeverity, Report.fixable, hgaps]
    rw [hnone]
    refine offers_of_append [_, _, _] ?_ 0
    intro l hl
    rcases List.mem_cons.mp hl with rfl | hl
    · exact isOther_of_opening (opening_bold o rfl (by decide)) (by decide)
    rcases List.mem_cons.mp hl with rfl | hl
    · intro c hc
      cases hc
    · rw [List.mem_singleton.mp hl]
      exact isOther_of_opening rfl (by decide)
  next =>
    apply offers_of_append
    intro l hl
    rcases List.mem_append.mp hl with hl | hl
    · rcases List.mem_cons.mp hl with rfl | hl
      · exact isOther_of_opening (opening_bold_append o rfl (by decide) _) (by decide)
      · rw [List.mem_singleton.mp hl]
        exact isOther_summary r
    · obtain ⟨v, -, hl⟩ := List.mem_flatMap.mp hl
      exact isOther_of_mem_groupLines hl

/-! ### Fixes by severity -/

/-- The fixes of the gaps of one severity. -/
def fixCount (r : Report) (v : Severity) : Nat :=
  ((r.fixes none).filter (·.1.severity = v)).length

theorem fixes_none (r : Report) :
    r.fixes none = r.allGaps.filterMap fun g => g.fix.map (g, ·) := by
  rfl

theorem fst_fixes_none (r : Report) : (r.fixes none).map (·.1) = Report.fixable r.allGaps := by
  rw [fixes_none]
  induction r.allGaps with
  | nil => rfl
  | cons g gaps ih =>
    rw [Report.fixable] at ih ⊢
    cases hfix : g.fix with
    | none => simpa [hfix] using ih
    | some f => simpa [hfix] using ih

theorem length_fixes_none (r : Report) : (r.fixes none).length = r.fixableCount := by
  rw [Report.fixableCount, ← fst_fixes_none, List.length_map]

theorem filter_allGaps (r : Report) (v : Severity) :
    r.allGaps.filter (·.severity = v) = r.ofSeverity v := by
  have hother {w : Severity} (hw : w ≠ v) : (r.ofSeverity w).filter (·.severity = v) = [] := by
    rw [List.filter_eq_nil_iff]
    intro g hg
    have hseverity := of_decide_eq_true (List.mem_filter.mp hg).2
    simp [hseverity, hw]
  have hsame : (r.ofSeverity v).filter (·.severity = v) = r.ofSeverity v := by
    rw [List.filter_eq_self]
    exact fun g hg => (List.mem_filter.mp hg).2
  simp only [Report.allGaps, Severity.all, List.flatMap_cons, List.flatMap_nil, List.append_nil,
    List.filter_append]
  cases v with
  | critical => rw [hsame, hother (by decide), hother (by decide), List.append_nil, List.append_nil]
  | warning => rw [hsame, hother (by decide), hother (by decide), List.nil_append, List.append_nil]
  | suggestion =>
    rw [hsame, hother (by decide), hother (by decide), List.nil_append, List.nil_append]

theorem fixCount_eq (r : Report) (v : Severity) :
    fixCount r v = (Report.fixable (r.ofSeverity v)).length := by
  have hmap : fixCount r v = (((r.fixes none).map (·.1)).filter (·.severity = v)).length := by
    rw [List.filter_map, List.length_map]
    rfl
  rw [hmap, fst_fixes_none, ← filter_allGaps, Report.fixable, Report.fixable, List.filter_filter,
    List.filter_filter]
  simp only [Bool.and_comm]

theorem length_fixes_eq_sum (r : Report) :
    (r.fixes none).length =
      fixCount r .critical + fixCount r .warning + fixCount r .suggestion := by
  rw [length_fixes_none, fixCount_eq, fixCount_eq, fixCount_eq]
  simp only [Report.fixableCount, Report.allGaps, Severity.all, Report.fixable, List.flatMap_cons,
    List.flatMap_nil, List.filter_append, List.length_append, List.filter_nil, List.length_nil]
  omega

theorem numbersIn_countedIfAny (n : Nat) {one many : String}
    (hone : ∀ c ∈ one.toList, c.isDigit = false) (hmany : ∀ c ∈ many.toList, c.isDigit = false) :
    (countedIfAny n one many).flatMap numbersIn = [n].filter (· != 0) := by
  unfold countedIfAny
  by_cases hn : n = 0
  · simp [hn]
  · simp [hn, numbersIn_counted n hone hmany]

/-- A prompt has the numbers of fixes by severity, and no others. -/
theorem numbersIn_fixPrompt {r : Report} {text : String} (h : r.fixPrompt? = some text) :
    numbersIn text = (Severity.all.map (fixCount r)).filter (· != 0) := by
  unfold Report.fixPrompt? at h
  simp only [← fixCount_eq] at h
  split at h
  · cases h
  · cases h
    rw [numbersIn_append_right _ (by simp), numbersIn_append_of_forall (by simp),
      numbersIn_intercalate]
    simp only [List.flatMap_append]
    rw [numbersIn_countedIfAny _ (by simp) (by simp), numbersIn_countedIfAny _ (by simp) (by simp),
      numbersIn_countedIfAny _ (by simp) (by simp), ← List.filter_append, ← List.filter_append]
    rfl

theorem fixPrompt_eq_none_iff (r : Report) : r.fixPrompt? = none ↔ (r.fixes none).length = 0 := by
  rw [length_fixes_eq_sum]
  unfold Report.fixPrompt?
  simp only [← fixCount_eq]
  split <;> simp_all

/-! ### Marked gaps, and gaps asked for -/

theorem hasFix_ofGap (g : Gap) : (ListedGap.ofGap g).hasFix = g.fix.isSome := by
  rw [ListedGap.hasFix, ListedGap.ofGap, Option.isSome_map]

theorem filter_hasFix_listing (r : Report) :
    ((r.listing.critical ++ r.listing.warnings ++ r.listing.suggestions).filter (·.hasFix)).length =
      (r.fixes none).length := by
  have hlisted (v : Severity) :
      (((r.ofSeverity v).map ListedGap.ofGap).filter (·.hasFix)).length = fixCount r v := by
    rw [fixCount_eq, List.filter_map, List.length_map, Report.fixable]
    congr 2
    funext g
    exact hasFix_ofGap g
  rw [List.filter_append, List.filter_append, List.length_append, List.length_append,
    length_fixes_eq_sum]
  exact congrArg₂ _ (congrArg₂ _ (hlisted .critical) (hlisted .warning)) (hlisted .suggestion)

theorem fixes_some (r : Report) (ids : List String) :
    r.fixes (some ids) = (r.fixes none).filter fun e => e.1.id ∈ ids := by
  rw [fixes_none, List.filter_filterMap]
  unfold Report.fixes
  dsimp only
  congr 1
  funext g
  cases hfix : g.fix with
  | none => simp
  | some f =>
    by_cases hid : g.id ∈ ids <;> simp [Option.filter, hid]

/-- The gaps with a fix, by severity and in the order in which they were found. -/
theorem fst_fixes_by_severity (r : Report) :
    (r.fixes none).map (·.1) =
      Severity.all.flatMap fun v => r.gaps.filter fun g => g.severity = v ∧ g.fix.isSome := by
  rw [fst_fixes_none, Report.fixable, Report.allGaps, List.filter_flatMap]
  congr 1
  funext v
  rw [Report.ofSeverity, List.filter_filter]
  simp only [Bool.decide_and, Bool.decide_eq_true, Bool.and_comm]

theorem fix_of_mem_fixes {r : Report} {e : Gap × Fix} (he : e ∈ r.fixes none) :
    e.1.fix = some e.2 := by
  rw [fixes_none] at he
  obtain ⟨g, -, hg⟩ := List.mem_filterMap.mp he
  obtain ⟨f, hf, rfl⟩ := Option.map_eq_some_iff.mp hg
  exact hf

theorem sum_numbersIn_fixPrompt {r : Report} {text : String} (h : r.fixPrompt? = some text) :
    (numbersIn text).sum = (r.fixes none).length := by
  rw [numbersIn_fixPrompt h, List.sum_filter_bne_zero, length_fixes_eq_sum, Nat.add_assoc]
  rfl

/-- All views of a report agree on what can be fixed: the fixes are those of the gaps that have
one, by severity and in the order in which the gaps were found; they are as many as the listing
counts and marks, as the text of the conversation announces in its lines and as the numbers in the
prompt come to; and those of the gaps with given ids are the ones among them. -/
theorem views_agree_on_fixes (r : Report) :
    (r.fixes none).map (·.1) =
        Severity.all.flatMap (fun v => r.gaps.filter fun g => g.severity = v ∧ g.fix.isSome) ∧
      (∀ e ∈ r.fixes none, e.1.fix = some e.2) ∧
      r.listing.fixableCount = (r.fixes none).length ∧
      ((r.listing.critical ++ r.listing.warnings ++ r.listing.suggestions).filter
        (·.hasFix)).length = (r.fixes none).length ∧
      (∀ o, r.chat o = "\n".intercalate (r.chatLines o) ∧
        Offers o (r.chatLines o) (r.fixes none).length) ∧
      (r.fixPrompt? = none ↔ (r.fixes none).length = 0) ∧
      (∀ text, r.fixPrompt? = some text →
        numbersIn text = (Severity.all.map (fixCount r)).filter (· != 0) ∧
          (numbersIn text).sum = (r.fixes none).length) ∧
      ∀ ids, r.fixes (some ids) = (r.fixes none).filter fun e => e.1.id ∈ ids := by
  refine ⟨fst_fixes_by_severity r, fun e he => fix_of_mem_fixes he, (length_fixes_none r).symm,
    filter_hasFix_listing r, ?_, fixPrompt_eq_none_iff r, ?_, fixes_some r⟩
  · intro o
    rw [length_fixes_none]
    exact ⟨rfl, offers_chatLines r o⟩
  · intro text htext
    exact ⟨numbersIn_fixPrompt htext, sum_numbersIn_fixPrompt htext⟩

end ServiceBlueprint.Gap
