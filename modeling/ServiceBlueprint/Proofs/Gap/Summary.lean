import Mathlib.Data.List.Basic
import ServiceBlueprint.Proofs.Text.Numerals

/-!
# What a summary tells

A summary has an item for each severity of which there are gaps. Its items are what stands between
the commas; an item has its count as the only number in it, and its noun is that of one severity
only. So reports have the same summary exactly if they have equally many gaps of each severity.
-/

namespace ServiceBlueprint.Gap

/-! ### Items between commas -/

/-- The blank after a comma is taken for the beginning of the next item. -/
theorem intercalate_cons_eq (s : String) (rest : List String) :
    ", ".intercalate (s :: rest) = ",".intercalate (s :: rest.map (" " ++ ·)) := by
  have hcomma : ", " = "," ++ " " := rfl
  induction rest generalizing s with
  | nil => rfl
  | cons t rest ih =>
    rw [String.intercalate_cons_cons, ih, List.map_cons, String.intercalate_cons_cons,
      String.intercalate_cons_append, hcomma]
    simp only [String.append_assoc]

/-- Items that are joined are found again between the commas, unless one has a comma itself. -/
theorem intercalate_inj {xs ys : List String} (hx : ∀ s ∈ xs, ',' ∉ s.toList)
    (hy : ∀ s ∈ ys, ',' ∉ s.toList) (hxne : xs ≠ []) (hyne : ys ≠ [])
    (h : ", ".intercalate xs = ", ".intercalate ys) : xs = ys := by
  have hlist : Function.Injective String.toList := fun s t => String.toList_inj.mp
  have hblank : Function.Injective (" " ++ · : String → String) :=
    fun s t => (String.append_right_inj " ").mp
  have hsplit (s : String) (rest : List String) (hs : ∀ t ∈ s :: rest, ',' ∉ t.toList) :
      (", ".intercalate (s :: rest)).toList.splitOn ',' =
        (s :: rest.map (" " ++ ·)).map String.toList := by
    rw [intercalate_cons_eq, String.toList_intercalate]
    apply List.splitOn_intercalate ',' _ (by simp)
    simpa using hs
  cases xs with
  | nil => exact absurd rfl hxne
  | cons s xs =>
    cases ys with
    | nil => exact absurd rfl hyne
    | cons t ys =>
      have hitems := hsplit t ys hy
      rw [← h, hsplit s xs hx] at hitems
      obtain ⟨hfirst, hrest⟩ := List.cons.inj (hlist.list_map hitems)
      rw [hfirst, hblank.list_map hrest]

/-! ### Items of a summary -/

/-- The noun for one gap of a severity, and the one for more. -/
def Severity.nouns : Severity → String × String
  | .critical => ("critical issue", "critical issues")
  | .warning => ("warning", "warnings")
  | .suggestion => ("suggestion", "suggestions")

def summaryItem (s : Severity) (n : Nat) : String :=
  counted n s.nouns.1 s.nouns.2

theorem Severity.nouns_plain (s : Severity) :
    (∀ c ∈ s.nouns.1.toList, c.isDigit = false ∧ c ≠ ',') ∧
      ∀ c ∈ s.nouns.2.toList, c.isDigit = false ∧ c ≠ ',' := by
  cases s <;> simp [nouns]

theorem numbersIn_summaryItem (s : Severity) (n : Nat) : numbersIn (summaryItem s n) = [n] :=
  numbersIn_counted n (fun c hc => (s.nouns_plain.1 c hc).1) fun c hc => (s.nouns_plain.2 c hc).1

/-- An item tells the severity as well as the number. -/
theorem summaryItem_inj {s t : Severity} {m n : Nat} (h : summaryItem s m = summaryItem t n) :
    s = t ∧ m = n := by
  have hcount : m = n := by
    have hnumbers := numbersIn_summaryItem s m
    rw [h, numbersIn_summaryItem] at hnumbers
    exact (List.singleton_inj.mp hnumbers).symm
  subst hcount
  rw [summaryItem, summaryItem, counted, counted, String.append_right_inj] at h
  refine ⟨?_, rfl⟩
  split at h <;> cases s <;> cases t <;> first | rfl | exact absurd h (by decide)

theorem comma_notMem_summaryItem (s : Severity) (n : Nat) : ',' ∉ (summaryItem s n).toList := by
  have hdigits : ',' ∉ (toString n).toList := by
    intro hmem
    have hlist : (toString n).toList = Nat.toDigits 10 n := Nat.toList_repr
    rw [hlist] at hmem
    exact absurd (Nat.isDigit_of_mem_toDigits (by omega) (by omega) hmem) (by decide)
  rw [summaryItem, counted, String.toList_append, String.toList_append, List.mem_append,
    List.mem_append]
  rintro ((h | h) | h)
  · exact hdigits h
  · exact absurd h (by decide)
  · split at h
    · exact (s.nouns_plain.1 _ h).2 rfl
    · exact (s.nouns_plain.2 _ h).2 rfl

/-! ### Counts by severity -/

/-- The severities of which there are gaps, each with how many. -/
def tallies (count : Severity → Nat) : List (Severity × Nat) :=
  (Severity.all.map fun s => (s, count s)).filter (·.2 ≠ 0)

theorem mem_tallies_iff {count : Severity → Nat} {s : Severity} {n : Nat} :
    (s, n) ∈ tallies count ↔ count s = n ∧ n ≠ 0 := by
  have hall : s ∈ Severity.all := by cases s <;> decide
  rw [tallies, List.mem_filter, List.mem_map, decide_eq_true_iff]
  constructor
  · rintro ⟨⟨t, -, ht⟩, hn⟩
    cases ht
    exact ⟨rfl, hn⟩
  · rintro ⟨rfl, hn⟩
    exact ⟨⟨s, hall, rfl⟩, hn⟩

theorem tallies_injective : Function.Injective tallies := by
  intro count count' h
  funext s
  by_cases hs : count s = 0
  · by_contra hne
    have hmem : (s, count' s) ∈ tallies count := by
      rw [h, mem_tallies_iff]
      exact ⟨rfl, fun h0 => hne (hs.trans h0.symm)⟩
    exact hne (mem_tallies_iff.mp hmem).1
  · have hmem : (s, count s) ∈ tallies count' := by
      rw [← h, mem_tallies_iff]
      exact ⟨rfl, hs⟩
    exact (mem_tallies_iff.mp hmem).1.symm

theorem tallies_eq_nil_iff {count : Severity → Nat} : tallies count = [] ↔ ∀ s, count s = 0 := by
  rw [List.eq_nil_iff_forall_not_mem]
  constructor
  · intro h s
    by_contra hs
    exact h (s, count s) (mem_tallies_iff.mpr ⟨rfl, hs⟩)
  · rintro h ⟨s, n⟩ hmem
    obtain ⟨hn, hne⟩ := mem_tallies_iff.mp hmem
    exact hne (hn ▸ h s)

/-! ### The sentence -/

theorem countedIfAny_eq (s : Severity) (n : Nat) :
    countedIfAny n s.nouns.1 s.nouns.2 =
      ([(s, n)].filter (·.2 ≠ 0)).map fun t => summaryItem t.1 t.2 := by
  by_cases hn : n = 0
  · rw [countedIfAny, if_pos hn, List.filter_cons_of_neg (by simp [hn])]
    rfl
  · rw [countedIfAny, if_neg hn, List.filter_cons_of_pos (by simp [hn])]
    rfl

/-- The summary of as many gaps of each severity as are given. -/
def summaryOf (count : Severity → Nat) : String :=
  summarize (count .critical) (count .warning) (count .suggestion)

theorem summaryOf_eq (count : Severity → Nat) :
    summaryOf count =
      if tallies count = [] then "No gaps detected. Configuration appears complete."
      else "Found " ++ ", ".intercalate ((tallies count).map fun t => summaryItem t.1 t.2) ++
        "." := by
  have hitems : (tallies count).map (fun t => summaryItem t.1 t.2) =
      countedIfAny (count .critical) "critical issue" "critical issues" ++
        countedIfAny (count .warning) "warning" "warnings" ++
        countedIfAny (count .suggestion) "suggestion" "suggestions" := by
    have hsplit : tallies count = [(Severity.critical, count .critical)].filter (·.2 ≠ 0) ++
        [(Severity.warning, count .warning)].filter (·.2 ≠ 0) ++
        [(Severity.suggestion, count .suggestion)].filter (·.2 ≠ 0) := by
      rw [← List.filter_append, ← List.filter_append]
      rfl
    rw [hsplit, List.map_append, List.map_append, ← countedIfAny_eq, ← countedIfAny_eq,
      ← countedIfAny_eq]
    rfl
  have hnone : count .critical + count .warning + count .suggestion = 0 ↔ tallies count = [] := by
    rw [tallies_eq_nil_iff]
    constructor
    · intro h s
      cases s <;> omega
    · intro h
      rw [h, h, h]
  rw [hitems, summaryOf, summarize]
  simp only [hnone]

/-- What there are gaps of is said in another way than that there are none. -/
theorem summaryOf_injective : Function.Injective summaryOf := by
  intro count count' h
  apply tallies_injective
  have hfound (t : String) :
      "No gaps detected. Configuration appears complete." ≠ "Found " ++ t ++ "." := by
    intro heq
    have hfirst := congrArg (·.toList.head?) heq
    rw [String.append_assoc, String.toList_append] at hfirst
    cases hfirst
  have hitem (count : Severity → Nat) :
      ∀ s ∈ (tallies count).map fun t => summaryItem t.1 t.2, ',' ∉ s.toList := by
    intro s hs
    obtain ⟨t, -, rfl⟩ := List.mem_map.mp hs
    exact comma_notMem_summaryItem t.1 t.2
  have hinjective : Function.Injective fun t : Severity × Nat => summaryItem t.1 t.2 := by
    intro t u htu
    exact Prod.ext_iff.mpr (summaryItem_inj htu)
  rw [summaryOf_eq, summaryOf_eq] at h
  by_cases hnone : tallies count = []
  · by_cases hnone' : tallies count' = []
    · rw [hnone, hnone']
    · rw [if_pos hnone, if_neg hnone'] at h
      exact absurd h (hfound _)
  · by_cases hnone' : tallies count' = []
    · rw [if_neg hnone, if_pos hnone'] at h
      exact absurd h.symm (hfound _)
    · rw [if_neg hnone, if_neg hnone', String.append_left_inj, String.append_right_inj] at h
      apply hinjective.list_map
      exact intercalate_inj (hitem count) (hitem count') (by simpa using hnone)
        (by simpa using hnone') h

def countBy (critical warnings suggestions : Nat) : Severity → Nat
  | .critical => critical
  | .warning => warnings
  | .suggestion => suggestions

def Report.count (r : Report) (s : Severity) : Nat :=
  (r.ofSeverity s).length

theorem Report.summary_eq (r : Report) : r.summary = summaryOf r.count := rfl

/-- Counts with the same summary are the same, each for each, and so reports have the same summary
exactly if they have as many gaps of every severity. -/
theorem summary_tells_counts :
    (∀ critical warnings suggestions critical' warnings' suggestions' : Nat,
      summarize critical warnings suggestions = summarize critical' warnings' suggestions' ↔
        (critical, warnings, suggestions) = (critical', warnings', suggestions')) ∧
      ∀ r r' : Report, r.summary = r'.summary ↔
        ∀ s, (r.ofSeverity s).length = (r'.ofSeverity s).length := by
  constructor
  · intro critical warnings suggestions critical' warnings' suggestions'
    constructor
    · intro h
      have hcounts : countBy critical warnings suggestions =
          countBy critical' warnings' suggestions' := summaryOf_injective h
      have hcritical : critical = critical' := congrFun hcounts .critical
      have hwarnings : warnings = warnings' := congrFun hcounts .warning
      have hsuggestions : suggestions = suggestions' := congrFun hcounts .suggestion
      rw [hcritical, hwarnings, hsuggestions]
    · rintro ⟨⟩
      rfl
  · intro r r'
    rw [Report.summary_eq, Report.summary_eq, summaryOf_injective.eq_iff, funext_iff]
    rfl

/-- Nouns alone do not do: the same counts of other severities make another summary. -/
example : summarize 0 3 2 ≠ summarize 3 2 0 := by decide

end ServiceBlueprint.Gap
