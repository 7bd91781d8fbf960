import ServiceBlueprint.Proofs.Calendar.Spelling
import ServiceBlueprint.Proofs.Form.Agreement

/-!
# Dates checked and dates submitted

A date that is submitted has to be written as `YYYY-MM-DD`. The check of a single value leaves it to
the reader of dates what a date is, and so it takes the other spellings of a day too.
-/

namespace ServiceBlueprint.Form

section

variable {form : Form} {f : Field} {c : CompiledForm} {s : String}

/-- Without bounds a text is a date to the check exactly if a day can be read from it. -/
theorem complainsUnless_date (ht : f.type? = some .date)
    (hmin : (f.property "minDate").truthy = false) (hmax : (f.property "maxDate").truthy = false)
    (hs : isBlank (.text s) = false) :
    ComplainsUnless (f.check (.text s)) (∃ d, Calendar.readDate? s = some d) := by
  have hcheck : f.check (.text s) = .ok (f.checkDate (.text s)) := by
    unfold Field.check
    rw [hs, ht]
    rfl
  have hleast : f.dateBound? "minDate" = none := if_neg (Bool.eq_false_iff.mp hmin)
  have hmost : f.dateBound? "maxDate" = none := if_neg (Bool.eq_false_iff.mp hmax)
  have hdisplay : (Value.text s).display = s := rfl
  rw [hcheck, Field.checkDate, hdisplay, hleast, hmost]
  cases hread : Calendar.readDate? s with
  | none => exact complainsUnless_some .notDate (by simp)
  | some d => exact complainsUnless_none ⟨d, rfl⟩

theorem wellConstrained_of_date (ht : f.type? = some .date) : f.WellConstrained := by
  rw [Field.wellConstrained_iff]
  simp [ht]

theorem admissible_date_iff (ht : f.type? = some .date) :
    f.Admissible (.text s) ↔ ∃ d : Date, d.isReal = true ∧ s = d.isoText := by
  unfold Field.Admissible
  rw [ht]
  simp only [Value.text.injEq]

/-- The verdict on a submission of a date alone accepts the days of the calendar as `YYYY-MM-DD`, and
the check of it accepts just these and the other spellings of a day. -/
theorem check_agrees_on_dates_iff (h : form.compile = .ok c) (ha : form.StandsAlone f)
    (ht : f.type? = some .date) (hmin : (f.property "minDate").truthy = false)
    (hmax : (f.property "maxDate").truthy = false) (hs : isBlank (.text s) = false) :
    ∃ o verdict, f.check (.text s) = .ok o ∧ judge c (.map [(f.name, .text s)]) = .ok verdict ∧
      (verdict.errors = [] ↔ ∃ d : Date, d.isReal = true ∧ s = d.isoText) ∧
      (o = none ↔ ∃ d : Date, d.isReal = true ∧ s = d.isoText ∨ d.Respelt s) ∧
      ((o = none ↔ verdict.errors = []) ↔ ¬ ∃ d : Date, d.Respelt s) := by
  obtain ⟨verdict, hverdict, herrors⟩ :=
    ha.judge_errors_iff h (wellConstrained_of_date ht) (.text s)
  obtain ⟨o, ho, hnone⟩ := complainsUnless_date ht hmin hmax hs
  rw [admissible_date_iff ht] at herrors
  simp only [Date.readDate?_eq_some_iff] at hnone
  refine ⟨o, verdict, ho, hverdict, herrors, hnone, ?_⟩
  rw [hnone, herrors]
  constructor
  · intro hagree ⟨d, hrespelt⟩
    obtain ⟨e, hreal, heq⟩ := hagree.mp ⟨d, Or.inr hrespelt⟩
    exact hrespelt.ne_isoText hreal heq
  · intro hother
    constructor
    · intro ⟨d, hd⟩
      rcases hd with hd | hrespelt
      · exact ⟨d, hd⟩
      · exact absurd ⟨d, hrespelt⟩ hother
    · intro ⟨d, hd⟩
      exact ⟨d, Or.inl hd⟩

end

theorem date_compiles : ∃ c, (poll (question "DATE" [])).compile = .ok c :=
  poll_compiles fun hchoice => absurd hchoice (by decide)

theorem check_agrees_on_dates_iff_poll :
    let f := question "DATE" []
    let s := "2024-01-15"
    ∃ c, (poll f).compile = .ok c ∧ (poll f).StandsAlone f ∧ f.type? = some .date ∧
      (f.property "minDate").truthy = false ∧ (f.property "maxDate").truthy = false ∧
      isBlank (.text s) = false ∧
      ∃ o verdict, f.check (.text s) = .ok o ∧ judge c (.map [(f.name, .text s)]) = .ok verdict ∧
        (verdict.errors = [] ↔ ∃ d : Date, d.isReal = true ∧ s = d.isoText) ∧
        (o = none ↔ ∃ d : Date, d.isReal = true ∧ s = d.isoText ∨ d.Respelt s) ∧
        ((o = none ↔ verdict.errors = []) ↔ ¬ ∃ d : Date, d.Respelt s) := by
  intro f s
  obtain ⟨c, hcompile⟩ := date_compiles
  have ha : (poll f).StandsAlone f := standsAlone_poll _ _
  have ht : f.type? = some .date := by decide
  have hs : isBlank (.text s) = false := by decide
  exact ⟨c, hcompile, ha, ht, rfl, rfl, hs, check_agrees_on_dates_iff hcompile ha ht rfl rfl hs⟩

theorem respelt_compact : (⟨2024, 1, 15⟩ : Date).Respelt "20240115" := by
  have htail : (Text.toOctets "").length = 0 := Text.length_toOctets_eq_zero_iff.mpr rfl
  have hcompact : (⟨2024, 1, 15⟩ : Date).Respelt _ := .compact "" (Or.inl htail) (by decide)
  have hwritten : Date.padded 4 2024 ++ Date.padded 2 1 ++ Date.padded 2 15 ++ "" = "20240115" := by
    decide
  rwa [hwritten] at hcompact

/-- Without its hyphens a day passes the check and not the submission. -/
theorem not_check_agrees_on_dates_poll :
    let f := question "DATE" []
    let s := "20240115"
    ∃ c verdict, (poll f).compile = .ok c ∧ (poll f).StandsAlone f ∧ f.type? = some .date ∧
      (f.property "minDate").truthy = false ∧ (f.property "maxDate").truthy = false ∧
      isBlank (.text s) = false ∧ judge c (.map [(f.name, .text s)]) = .ok verdict ∧
      ¬ (f.check (.text s) = .ok none ↔ verdict.errors = []) := by
  intro f s
  obtain ⟨c, hcompile⟩ := date_compiles
  have ha : (poll f).StandsAlone f := standsAlone_poll _ _
  have ht : f.type? = some .date := by decide
  have hs : isBlank (.text s) = false := by decide
  obtain ⟨verdict, hverdict, herrors⟩ :=
    ha.judge_errors_iff hcompile (wellConstrained_of_date ht) (.text s)
  obtain ⟨o, ho, hnone⟩ := complainsUnless_date ht rfl rfl hs
  refine ⟨c, verdict, hcompile, ha, ht, rfl, rfl, hs, hverdict, ?_⟩
  intro hagree
  have haccepted : o = none :=
    hnone.mpr ⟨_, Date.readDate?_eq_some_iff.mpr (Or.inr respelt_compact)⟩
  rw [haccepted] at ho
  obtain ⟨d, hreal, heq⟩ := (admissible_date_iff ht).mp (herrors.mp (hagree.mp ho))
  exact respelt_compact.ne_isoText hreal heq

end ServiceBlueprint.Form
