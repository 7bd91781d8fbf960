import Mathlib
import ServiceBlueprint.Form.FieldCheck
import ServiceBlueprint.Proofs.Form.Constraints
import ServiceBlueprint.Proofs.Pattern.Anchored

/-!
# The check of one value and the verdict on it

A value can be checked by itself while a form is filled in, and it is judged by the schema once it
is submitted. For addresses of mail and telephone numbers the two accept the same values. For texts
they differ just where nothing is to be longer than zero, and for options just where there are none.
-/

namespace ServiceBlueprint.Form

/-- A check that does not fail, and has no complaint exactly if something holds. -/
def ComplainsUnless (checked : Attempt (Option Complaint)) (accepted : Prop) : Prop :=
  ∃ o, checked = .ok o ∧ (o = none ↔ accepted)

theorem complainsUnless_none {accepted : Prop} (h : accepted) :
    ComplainsUnless (.ok none) accepted :=
  ⟨none, rfl, by simp [h]⟩

theorem complainsUnless_some {accepted : Prop} (complaint : Complaint) (h : ¬ accepted) :
    ComplainsUnless (.ok (some complaint)) accepted :=
  ⟨some complaint, rfl, by simp [h]⟩

theorem complainsUnless_ite (b : Bool) (complaint : Complaint) :
    ComplainsUnless (.ok (if b then none else some complaint)) (b = true) := by
  cases b
  · exact complainsUnless_some complaint Bool.false_ne_true
  · exact complainsUnless_none rfl

theorem ComplainsUnless.congr {checked : Attempt (Option Complaint)} {accepted accepted' : Prop}
    (h : ComplainsUnless checked accepted) (hiff : accepted ↔ accepted') :
    ComplainsUnless checked accepted' := by
  rwa [← propext hiff]

/-- A bound that is compared with, if there is one, is met before what follows is asked. -/
theorem ComplainsUnless.bounded {p : Prop} [Decidable p] {compared : Attempt (Option Ordering)}
    {order : Option Ordering} {rest : Attempt (Option Complaint)} {accepted : Prop}
    (refused : Ordering) (complaint : Complaint) (hcompared : p → compared = .ok order)
    (hrest : ComplainsUnless rest accepted) :
    ComplainsUnless (if p then do
      if (← compared) = some refused then return some complaint
      rest
    else rest) ((p → order ≠ some refused) ∧ accepted) := by
  by_cases hp : p
  · rw [if_pos hp, hcompared hp]
    by_cases horder : order = some refused
    · have hrefused : ComplainsUnless (.ok (some complaint))
          ((p → order ≠ some refused) ∧ accepted) :=
        complainsUnless_some complaint fun h => h.1 hp horder
      change ComplainsUnless (if order = some refused then _ else rest) _
      rwa [if_pos horder]
    · change ComplainsUnless (if order = some refused then _ else rest) _
      rw [if_neg horder]
      exact hrest.congr (and_iff_right fun _ => horder).symm
  · rw [if_neg hp]
    exact hrest.congr (and_iff_right fun h => absurd h hp).symm

/-! ### Addresses -/

theorem startsAs_iff {pattern : String} {p : Pattern} (hread : Pattern.read pattern = .ok p)
    (hp : p.Anchored) {v : Value} :
    startsAs pattern v = true ↔ ∃ s, v = .text s ∧ FoundIn (.text pattern) s := by
  have hfound : ∀ s, FoundIn (.text pattern) s ↔ p.matchesStart s = true := by
    intro s
    rw [← hp.foundIn_eq]
    constructor
    · rintro ⟨t, q, ht, hq, hs⟩
      cases ht
      rw [hread] at hq
      cases hq
      exact hs
    · exact fun hs => ⟨pattern, p, rfl, hread, hs⟩
  unfold startsAs
  cases v with
  | text s => simp [hread, hfound]
  | _ => simp

/-- The pattern of an address asks for the sign by itself. -/
theorem at_mem_of_foundIn {s : String} (h : FoundIn (.text emailPattern) s) : '@' ∈ s.toList := by
  obtain ⟨t, p, ht, hp, hs⟩ := h
  cases ht
  rw [read_emailPattern] at hp
  cases hp
  exact Pattern.mem_of_foundIn rfl (by simp [emailNodes]) hs

section

variable {form : Form} {f : Field} {c : CompiledForm} {v : Value}

theorem complainsUnless_email (ht : f.type? = some .email) (hv : isBlank v = false) :
    ComplainsUnless (f.check v) (f.Admissible v) := by
  have hanchored : Pattern.Anchored ⟨.sequence emailNodes, 0, false⟩ := ⟨_, rfl⟩
  have hadmits : startsAs emailPattern v = true ↔ f.Admissible v := by
    rw [startsAs_iff read_emailPattern hanchored]
    unfold Field.Admissible
    rw [ht]
    simp only [and_iff_left_of_imp at_mem_of_foundIn]
  unfold Field.check
  rw [hv, ht]
  exact (complainsUnless_ite _ .notEmail).congr hadmits

theorem complainsUnless_phone (ht : f.type? = some .phone) (hv : isBlank v = false) :
    ComplainsUnless (f.check v) (f.Admissible v) := by
  have hanchored : Pattern.Anchored ⟨.sequence phoneNodes, 0, false⟩ := ⟨_, rfl⟩
  have hadmits : startsAs phonePattern v = true ↔ f.Admissible v := by
    rw [startsAs_iff read_phonePattern hanchored]
    unfold Field.Admissible
    rw [ht]
  unfold Field.check
  rw [hv, ht]
  exact (complainsUnless_ite _ .notPhone).congr hadmits

theorem wellConstrained_of_address (ht : f.type? = some .email ∨ f.type? = some .phone) :
    f.WellConstrained := by
  rw [Field.wellConstrained_iff]
  rcases ht with ht | ht
  · simp [ht]
  · simp [ht]

/-- The check of an address of mail or of a telephone number and the verdict on a submission of it
alone accept the same values, and these are the admissible ones. -/
theorem check_agrees_on_addresses (h : form.compile = .ok c) (ha : form.StandsAlone f)
    (ht : f.type? = some .email ∨ f.type? = some .phone) (hv : isBlank v = false) :
    ∃ o verdict, f.check v = .ok o ∧ judge c (.map [(f.name, v)]) = .ok verdict ∧
      (verdict.errors = [] ↔ f.Admissible v) ∧ (o = none ↔ verdict.errors = []) := by
  obtain ⟨verdict, hverdict, herrors⟩ :=
    ha.judge_errors_iff h (wellConstrained_of_address ht) v
  have hcheck : ComplainsUnless (f.check v) (f.Admissible v) := by
    rcases ht with ht | ht
    · exact complainsUnless_email ht hv
    · exact complainsUnless_phone ht hv
  obtain ⟨o, ho, hnone⟩ := hcheck
  exact ⟨o, verdict, ho, hverdict, herrors, hnone.trans herrors.symm⟩

theorem check_agrees_on_addresses_poll :
    let f := question "EMAIL" []
    let v := Value.text "a@b.cd"
    ∃ c, (poll f).compile = .ok c ∧ (poll f).StandsAlone f ∧ f.type? = some .email ∧
      isBlank v = false ∧ ∃ o verdict, f.check v = .ok o ∧
        judge c (.map [(f.name, v)]) = .ok verdict ∧
        (verdict.errors = [] ↔ f.Admissible v) ∧ (o = none ↔ verdict.errors = []) := by
  intro f v
  have ha : (poll f).StandsAlone f := standsAlone_poll _ _
  have ht : f.type? = some .email := by decide
  have hv : isBlank v = false := by decide
  obtain ⟨c, hcompile⟩ : ∃ c, (poll f).compile = .ok c :=
    poll_compiles fun hchoice => absurd hchoice (by decide)
  exact ⟨c, hcompile, ha, ht, hv, check_agrees_on_addresses hcompile ha (Or.inl ht) hv⟩

/-! ### Lengths -/

/-- A bound that is left out, or a number of characters. -/
def IsCount (bound : Value) : Prop :=
  bound = .null ∨ ∃ n : Nat, bound = .int n

/-- Of the bounds that are numbers of characters, the check leaves out zero. -/
theorem compareToBound_of_isCount {bound : Value} (h : IsCount bound) (n : Nat) :
    ∃ order, (bound.truthy = true → compareToBound (.whole n) bound = .ok order) ∧
      ((bound.truthy = true → order ≠ some .lt) ↔ ¬ Below (.int n) bound) ∧
      ((bound.truthy = true → order ≠ some .gt) ↔ bound = .int 0 ∨ ¬ Below bound (.int n)) := by
  rcases h with rfl | ⟨m, rfl⟩
  · refine ⟨none, fun h => absurd h Bool.false_ne_true, ?_, ?_⟩
    · simp [not_below_null]
    · simp [not_null_below]
  · refine ⟨some (compare (n : Int) m), fun _ => rfl, ?_, ?_⟩
    · simp only [Value.truthy, below_int_iff, ne_eq, Option.some.injEq, compare_lt_iff_lt,
        decide_eq_true_eq]
      omega
    · simp only [Value.truthy, below_int_iff, ne_eq, Option.some.injEq, compare_gt_iff_gt,
        decide_eq_true_eq, Value.int.injEq]
      omega

theorem not_below_iff_of_isCount {bound : Value} (h : IsCount bound) (n : Nat) :
    ¬ Below (.int n) bound ↔ ∀ least : Nat, bound = .int least → least ≤ n := by
  rcases h with rfl | ⟨m, rfl⟩
  · simp [not_below_null]
  · rw [below_int_iff, Int.not_lt, Int.ofNat_le]
    constructor
    · rintro hle least heq
      cases heq
      exact hle
    · exact fun hall => hall m rfl

theorem length_pos_of_isBlank {s : String} (h : isBlank (.text s) = false) : 0 < s.length := by
  rw [Nat.pos_iff_ne_zero]
  intro hzero
  rw [String.length_eq_zero_iff.mp hzero] at h
  cases h

theorem complainsUnless_text (ht : f.type? = some .text ∨ f.type? = some .textArea)
    (hmin : IsCount (f.property "minLength")) (hmax : IsCount (f.property "maxLength"))
    (hv : isBlank v = false) :
    ComplainsUnless (f.check v) (∃ s, v = .text s ∧
      ¬ Below (.int s.length) (f.property "minLength") ∧
      (f.property "maxLength" = .int 0 ∨ ¬ Below (f.property "maxLength") (.int s.length))) := by
  have hcheck : f.check v = f.checkText v := by
    unfold Field.check
    rcases ht with ht | ht
    · rw [hv, ht]
      rfl
    · rw [hv, ht]
      rfl
  rw [hcheck]
  cases v with
  | text s =>
    obtain ⟨least, hleast, hshort, -⟩ := compareToBound_of_isCount hmin s.length
    obtain ⟨most, hmost, -, hlong⟩ := compareToBound_of_isCount hmax s.length
    have hchecked := ComplainsUnless.bounded .lt (.tooShort (f.property "minLength")) hleast
      (ComplainsUnless.bounded .gt (.tooLong (f.property "maxLength")) hmost
        (complainsUnless_none trivial))
    rw [hshort, hlong, and_true] at hchecked
    exact hchecked.congr (by simp)
  | _ => exact complainsUnless_some .notText (by simp)

theorem IsCount.isSize {bound : Value} (h : IsCount bound) : bound = .null ∨ IsSize bound := by
  rcases h with rfl | ⟨n, rfl⟩
  · exact Or.inl rfl
  · exact Or.inr (isLength_iff.mp (decide_eq_true (Int.natCast_nonneg n)))

theorem wellConstrained_of_text (ht : f.type? = some .text ∨ f.type? = some .textArea)
    (hpattern : (f.property "pattern").truthy = false) (hmin : IsCount (f.property "minLength"))
    (hmax : IsCount (f.property "maxLength")) : f.WellConstrained := by
  have hfit : f.LengthsFit :=
    ⟨hmin.isSize, hmax.isSize, fun h => absurd h (Bool.eq_false_iff.mp hpattern)⟩
  refine Field.wellConstrained_iff.mpr ⟨fun _ => hfit, fun hnumber => ?_⟩
  rw [hnumber] at ht
  simp at ht

theorem admissible_text_iff (ht : f.type? = some .text ∨ f.type? = some .textArea)
    (hpattern : (f.property "pattern").truthy = false) :
    f.Admissible v ↔ ∃ s, v = .text s ∧ ¬ Below (.int s.length) (f.property "minLength") ∧
      ¬ Below (f.property "maxLength") (.int s.length) := by
  unfold Field.Admissible
  rcases ht with ht | ht
  · simp [ht, hpattern]
  · simp [ht, hpattern]

/-- The verdict on a submission of a text alone accepts the admissible values, and the check of it
accepts the same, unless no text may be longer than zero: then the check accepts the texts that are
not too short, and the verdict none. -/
theorem check_agrees_on_lengths_iff (h : form.compile = .ok c) (ha : form.StandsAlone f)
    (ht : f.type? = some .text ∨ f.type? = some .textArea)
    (hpattern : (f.property "pattern").truthy = false) (hmin : IsCount (f.property "minLength"))
    (hmax : IsCount (f.property "maxLength")) (hv : isBlank v = false) :
    ∃ o verdict, f.check v = .ok o ∧ judge c (.map [(f.name, v)]) = .ok verdict ∧
      (verdict.errors = [] ↔ f.Admissible v) ∧
      ((o = none ↔ verdict.errors = []) ↔
        ¬ (f.property "maxLength" = .int 0 ∧ ∃ s, v = .text s ∧
          ∀ least : Nat, f.property "minLength" = .int least → least ≤ s.length)) := by
  obtain ⟨verdict, hverdict, herrors⟩ :=
    ha.judge_errors_iff h (wellConstrained_of_text ht hpattern hmin hmax) v
  obtain ⟨o, ho, hnone⟩ := complainsUnless_text ht hmin hmax hv
  refine ⟨o, verdict, ho, hverdict, herrors, ?_⟩
  rw [hnone, herrors, admissible_text_iff ht hpattern]
  constructor
  · -- a text that is not blank is longer than zero, so only the check lets it pass
    rintro hiff ⟨hzero, s, rfl, hleast⟩
    obtain ⟨t, hs, -, hmost⟩ :=
      hiff.mp ⟨s, rfl, (not_below_iff_of_isCount hmin _).mpr hleast, Or.inl hzero⟩
    cases hs
    apply hmost
    rw [hzero, below_int_iff]
    exact Int.natCast_pos.mpr (length_pos_of_isBlank hv)
  · intro hnot
    constructor
    · rintro ⟨s, rfl, hleast, hzero | hmost⟩
      · exact absurd ⟨hzero, s, rfl, (not_below_iff_of_isCount hmin _).mp hleast⟩ hnot
      · exact ⟨s, rfl, hleast, hmost⟩
    · rintro ⟨s, rfl, hleast, hmost⟩
      exact ⟨s, rfl, hleast, Or.inr hmost⟩

theorem check_agrees_on_lengths_iff_poll :
    let f := question "TEXT" [(.text "minLength", .int 2), (.text "maxLength", .int 5)]
    let v := Value.text "oats"
    ∃ c, (poll f).compile = .ok c ∧ (poll f).StandsAlone f ∧ f.type? = some .text ∧
      (f.property "pattern").truthy = false ∧ IsCount (f.property "minLength") ∧
      IsCount (f.property "maxLength") ∧ isBlank v = false ∧
      ∃ o verdict, f.check v = .ok o ∧ judge c (.map [(f.name, v)]) = .ok verdict ∧
        (verdict.errors = [] ↔ f.Admissible v) ∧
        ((o = none ↔ verdict.errors = []) ↔
          ¬ (f.property "maxLength" = .int 0 ∧ ∃ s, v = .text s ∧
            ∀ least : Nat, f.property "minLength" = .int least → least ≤ s.length)) := by
  intro f v
  have ha : (poll f).StandsAlone f := standsAlone_poll _ _
  have ht : f.type? = some .text := by decide
  have hpattern : (f.property "pattern").truthy = false := by decide
  have hmin : IsCount (f.property "minLength") := Or.inr ⟨2, rfl⟩
  have hmax : IsCount (f.property "maxLength") := Or.inr ⟨5, rfl⟩
  have hv : isBlank v = false := by decide
  obtain ⟨c, hcompile⟩ : ∃ c, (poll f).compile = .ok c :=
    poll_compiles fun hchoice => absurd hchoice (by decide)
  exact ⟨c, hcompile, ha, ht, hpattern, hmin, hmax, hv,
    check_agrees_on_lengths_iff hcompile ha (Or.inl ht) hpattern hmin hmax hv⟩

/-- The check takes a greatest length of zero for none at all. -/
theorem not_check_agrees_on_lengths_poll :
    let f := question "TEXT" [(.text "maxLength", .int 0)]
    let v := Value.text "x"
    ∃ c verdict, (poll f).compile = .ok c ∧ (poll f).StandsAlone f ∧ f.type? = some .text ∧
      (f.property "pattern").truthy = false ∧ IsCount (f.property "minLength") ∧
      IsCount (f.property "maxLength") ∧ isBlank v = false ∧
      judge c (.map [(f.name, v)]) = .ok verdict ∧
      ¬ (f.check v = .ok none ↔ verdict.errors = []) := by
  intro f v
  have hrun : (do
      let c ← (poll f).compile
      let verdict ← judge c (.map [(f.name, v)])
      return verdict.valid : Attempt Bool) = .ok false := by
    cbv
  obtain ⟨c, verdict, hcompile, hverdict, herrors⟩ := poll_judge_of_run hrun
  have hcheck : f.check v = .ok none := by
    cbv
  refine ⟨c, verdict, hcompile, standsAlone_poll _ _, by decide, by decide, Or.inl rfl,
    Or.inr ⟨0, rfl⟩, by decide, hverdict, ?_⟩
  rw [hcheck, herrors]
  simp

/-! ### Options -/

/-- Options whose values are texts can be compared with any value; where there are none nothing is
refused. -/
theorem complainsUnless_option (ht : f.type? = some .select ∨ f.type? = some .radio)
    {options : List Value} (hoptions : f.property "options" = .list options)
    (hvalues : ∀ o ∈ options, ∃ s, o.get? "value" = some (.text s)) (hv : isBlank v = false) :
    ComplainsUnless (f.check v) (options = [] ∨ ∃ o ∈ options, o.get? "value" = some v) := by
  have hcheck : f.check v = f.checkOption v := by
    unfold Field.check
    rcases ht with ht | ht
    · rw [hv, ht]
      rfl
    · rw [hv, ht]
      rfl
  rw [hcheck, Field.checkOption, hoptions]
  cases options with
  | nil => exact complainsUnless_none (Or.inl rfl)
  | cons first others =>
    -- a text equals nothing but itself, so it does not matter that the check compares loosely
    obtain ⟨values, hfound⟩ : ∃ values, (first :: others).mapM (·.index "value") = .ok values := by
      rw [Attempt.mapM_isOk_iff]
      intro o ho
      obtain ⟨s, hs⟩ := hvalues o ho
      exact ⟨_, Value.index_eq_ok_iff.mpr hs⟩
    have htexts : ∀ w ∈ values, w.isText = true := by
      intro w hw
      obtain ⟨o, ho, hget⟩ := (mapM_index_eq_ok hfound).mp hw
      obtain ⟨s, hs⟩ := hvalues o ho
      rw [hs] at hget
      cases hget
      rfl
    have hlisted : values.contains v = true ↔
        first :: others = [] ∨ ∃ o ∈ first :: others, o.get? "value" = some v := by
      rw [Value.contains_iff_mem_of_forall htexts, mapM_index_eq_ok hfound]
      exact (or_iff_right (List.cons_ne_nil _ _)).symm
    change ComplainsUnless (do
      let values ← (first :: others).mapM (·.index "value")
      return if values.contains v then none else some .notOption) _
    rw [hfound]
    exact (complainsUnless_ite _ .notOption).congr hlisted

theorem wellConstrained_of_option (ht : f.type? = some .select ∨ f.type? = some .radio) :
    f.WellConstrained := by
  rw [Field.wellConstrained_iff]
  rcases ht with ht | ht
  · simp [ht]
  · simp [ht]

theorem admissible_option_iff (ht : f.type? = some .select ∨ f.type? = some .radio)
    {options : List Value} (hoptions : f.property "options" = .list options)
    (hvalues : ∀ o ∈ options, ∃ s, o.get? "value" = some (.text s)) :
    f.Admissible v ↔ ∃ o ∈ options, o.get? "value" = some v := by
  have hadmits : f.Admissible v ↔ ∃ s, v = .text s ∧ ∀ others, f.property "options" = .list others →
      ∃ o ∈ others, o.get? "value" = some (.text s) := by
    unfold Field.Admissible
    rcases ht with ht | ht
    · rw [ht]
    · rw [ht]
  rw [hadmits, hoptions]
  constructor
  · rintro ⟨s, rfl, hlisted⟩
    exact hlisted options rfl
  · rintro ⟨o, ho, hget⟩
    obtain ⟨s, hs⟩ := hvalues o ho
    rw [hs] at hget
    cases hget
    refine ⟨s, rfl, ?_⟩
    intro others heq
    cases heq
    exact ⟨o, ho, hs⟩

/-- The verdict on a submission of an option alone accepts the admissible values, and the check of it
accepts the same exactly if there are options: where there are none the check accepts all values,
and the verdict none. -/
theorem check_agrees_on_options_iff (h : form.compile = .ok c) (ha : form.StandsAlone f)
    (ht : f.type? = some .select ∨ f.type? = some .radio) {options : List Value}
    (hoptions : f.property "options" = .list options)
    (hvalues : ∀ o ∈ options, ∃ s, o.get? "value" = some (.text s)) (hv : isBlank v = false) :
    ∃ o verdict, f.check v = .ok o ∧ judge c (.map [(f.name, v)]) = .ok verdict ∧
      (verdict.errors = [] ↔ f.Admissible v) ∧
      ((o = none ↔ verdict.errors = []) ↔ options ≠ []) := by
  obtain ⟨verdict, hverdict, herrors⟩ := ha.judge_errors_iff h (wellConstrained_of_option ht) v
  obtain ⟨o, ho, hnone⟩ := complainsUnless_option ht hoptions hvalues hv
  refine ⟨o, verdict, ho, hverdict, herrors, ?_⟩
  rw [hnone, herrors, admissible_option_iff ht hoptions hvalues]
  cases options with
  | nil => simp
  | cons first others => simp

theorem check_agrees_on_options_iff_poll :
    let options : List Value := [.map [(.text "value", .text "yes")]]
    let f := question "SELECT" [(.text "options", .list options)]
    let v := Value.text "no"
    ∃ c, (poll f).compile = .ok c ∧ (poll f).StandsAlone f ∧ f.type? = some .select ∧
      f.property "options" = .list options ∧
      (∀ o ∈ options, ∃ s, o.get? "value" = some (.text s)) ∧ isBlank v = false ∧
      ∃ o verdict, f.check v = .ok o ∧ judge c (.map [(f.name, v)]) = .ok verdict ∧
        (verdict.errors = [] ↔ f.Admissible v) ∧
        ((o = none ↔ verdict.errors = []) ↔ options ≠ []) := by
  intro options f v
  have ha : (poll f).StandsAlone f := standsAlone_poll _ _
  have ht : f.type? = some .select := by decide
  have hoptions : f.property "options" = .list options := rfl
  have hvalues : ∀ o ∈ options, ∃ s, o.get? "value" = some (.text s) := by
    rw [List.forall_mem_singleton]
    exact ⟨"yes", rfl⟩
  have hv : isBlank v = false := by decide
  obtain ⟨c, hcompile⟩ : ∃ c, (poll f).compile = .ok c := by
    apply poll_compiles
    intro _ others heq o ho
    cases heq
    obtain ⟨s, hs⟩ := hvalues o ho
    rw [hs]
    rfl
  exact ⟨c, hcompile, ha, ht, hoptions, hvalues, hv,
    check_agrees_on_options_iff hcompile ha (Or.inl ht) hoptions hvalues hv⟩

/-- Of no options at all none can be chosen, and still the check accepts one. -/
theorem not_check_agrees_on_options_poll :
    let f := question "SELECT" [(.text "options", .list [])]
    let v := Value.text "x"
    ∃ c verdict, (poll f).compile = .ok c ∧ (poll f).StandsAlone f ∧ f.type? = some .select ∧
      f.property "options" = .list [] ∧ isBlank v = false ∧
      judge c (.map [(f.name, v)]) = .ok verdict ∧
      ¬ (f.check v = .ok none ↔ verdict.errors = []) := by
  intro f v
  have hrun : (do
      let c ← (poll f).compile
      let verdict ← judge c (.map [(f.name, v)])
      return verdict.valid : Attempt Bool) = .ok false := by
    cbv
  obtain ⟨c, verdict, hcompile, hverdict, herrors⟩ := poll_judge_of_run hrun
  have hcheck : f.check v = .ok none := by
    cbv
  refine ⟨c, verdict, hcompile, standsAlone_poll _ _, by decide, rfl, by decide, hverdict, ?_⟩
  rw [hcheck, herrors]
  simp

end

end ServiceBlueprint.Form
