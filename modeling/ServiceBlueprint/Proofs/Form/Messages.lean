import ServiceBlueprint.Form.FieldCheck
import ServiceBlueprint.Proofs.Attempt
import ServiceBlueprint.Proofs.Value.Text

/-!
# The words for a missing value

The required message is kept for what is missing. No violation of a keyword is worded so, and among
the complaints about one value only that of a blank value in a required field is.
-/

namespace ServiceBlueprint.Form

theorem append_ne_requiredMessage (part : String) {a b : String}
    (h : Value.occursIn part.toList requiredMessage.toList = false) :
    a ++ part ++ b ≠ requiredMessage := by
  intro heq
  rw [← heq, String.toList_append, String.toList_append, ← Bool.not_eq_true,
    Value.occursIn_iff] at h
  exact h (List.infix_append _ _ _)

theorem append_last_ne_requiredMessage (part : String) {a : String}
    (h : Value.occursIn part.toList requiredMessage.toList = false) :
    a ++ part ≠ requiredMessage := by
  rw [← String.append_empty (s := a ++ part)]
  exact append_ne_requiredMessage part h

theorem prefix_ne_requiredMessage (part : String) {b : String}
    (h : Value.occursIn part.toList requiredMessage.toList = false) :
    part ++ b ≠ requiredMessage := by
  rw [← String.empty_append (s := part)]
  exact append_ne_requiredMessage part h

/-! ### Violations -/

/-- No value is reported in the words in which a missing one is. -/
theorem message_eq_requiredMessage_iff {violation : Violation} :
    violation.message = requiredMessage ↔ violation = .missing := by
  constructor
  · intro h
    cases violation with
    | missing => rfl
    | tooShort v bound =>
      simp only [Violation.message] at h
      split at h
      · exact absurd h (append_last_ne_requiredMessage "should be non-empty" (by decide))
      · exact absurd h (append_last_ne_requiredMessage "is too short" (by decide))
    | tooLong v bound =>
      simp only [Violation.message] at h
      split at h
      · exact absurd h (append_last_ne_requiredMessage "is expected to be empty" (by decide))
      · exact absurd h (append_last_ne_requiredMessage "is too long" (by decide))
    | notOfType v t =>
      simp only [Violation.message] at h
      exact absurd h (append_ne_requiredMessage " is not of type " (by decide))
    | noMatch v pattern =>
      simp only [Violation.message] at h
      exact absurd h (append_ne_requiredMessage " does not match " (by decide))
    | belowMinimum v bound =>
      simp only [Violation.message] at h
      exact absurd h (append_ne_requiredMessage " is less than the minimum of " (by decide))
    | aboveMaximum v bound =>
      simp only [Violation.message] at h
      exact absurd h (append_ne_requiredMessage " is greater than the maximum of " (by decide))
    | notListed v options =>
      simp only [Violation.message] at h
      exact absurd h (append_ne_requiredMessage " is not one of " (by decide))
    | notInFormat v f =>
      simp only [Violation.message] at h
      exact absurd h (append_ne_requiredMessage " is not a " (by decide))
  · rintro rfl
    rfl

theorem ne_missing_of_violationIf {p : Bool} {found violation : Violation}
    (h : violationIf p found = some violation) (hne : found ≠ .missing) : violation ≠ .missing := by
  unfold violationIf at h
  split at h
  · cases h
    exact hne
  · cases h

/-- Keywords find all kinds of violations but this one. -/
theorem Keyword.violation_ne_missing {k : Keyword} {v : Value} {violation : Violation}
    (h : k.violation? v = .ok (some violation)) : violation ≠ .missing := by
  unfold Keyword.violation? at h
  split at h
  case h_1 => exact ne_missing_of_violationIf (Except.ok.inj h) (by simp)
  case h_2 =>
    obtain ⟨o, -, h⟩ := Attempt.bind_eq_ok.mp h
    exact ne_missing_of_violationIf (Except.ok.inj h) (by simp)
  case h_3 =>
    obtain ⟨o, -, h⟩ := Attempt.bind_eq_ok.mp h
    exact ne_missing_of_violationIf (Except.ok.inj h) (by simp)
  case h_4 =>
    obtain ⟨p, -, h⟩ := Attempt.bind_eq_ok.mp h
    exact ne_missing_of_violationIf (Except.ok.inj h) (by simp)
  case h_5 =>
    split at h
    · obtain ⟨o, -, h⟩ := Attempt.bind_eq_ok.mp h
      exact ne_missing_of_violationIf (Except.ok.inj h) (by simp)
    · cases h
  case h_6 =>
    split at h
    · obtain ⟨o, -, h⟩ := Attempt.bind_eq_ok.mp h
      exact ne_missing_of_violationIf (Except.ok.inj h) (by simp)
    · cases h
  case h_7 => exact ne_missing_of_violationIf (Except.ok.inj h) (by simp)
  case h_8 => exact ne_missing_of_violationIf (Except.ok.inj h) (by simp)
  case h_9 => cases h

/-! ### Complaints -/

theorem Complaint.message_eq_requiredMessage_iff {complaint : Complaint} :
    complaint.message = requiredMessage ↔ complaint = .required := by
  constructor
  · intro h
    cases complaint with
    | required => rfl
    | tooShort bound =>
      exact absurd h (append_last_ne_requiredMessage " characters required" (by decide))
    | tooLong bound =>
      exact absurd h (append_last_ne_requiredMessage " characters allowed" (by decide))
    | belowMinimum bound => exact absurd h (prefix_ne_requiredMessage "Minimum value is " (by decide))
    | aboveMaximum bound => exact absurd h (prefix_ne_requiredMessage "Maximum value is " (by decide))
    | tooEarly bound =>
      exact absurd h (prefix_ne_requiredMessage "Date must be on or after " (by decide))
    | tooLate bound =>
      exact absurd h (prefix_ne_requiredMessage "Date must be on or before " (by decide))
    | notText => exact absurd h (by decide)
    | notEmail => exact absurd h (by decide)
    | notPhone => exact absurd h (by decide)
    | notNumber => exact absurd h (by decide)
    | notDate => exact absurd h (by decide)
    | notOption => exact absurd h (by decide)
  · rintro rfl
    rfl

/-- A bound that is compared with, if there is one, adds its own complaint to those that follow. -/
theorem bounded_ne_required {p : Prop} [Decidable p] {compared : Attempt (Option Ordering)}
    {refused : Ordering} {complaint : Complaint} {rest : Attempt (Option Complaint)}
    (hown : complaint ≠ .required) (hrest : rest ≠ .ok (some .required)) :
    (if p then do
      if (← compared) = some refused then return some complaint
      rest
    else rest) ≠ .ok (some .required) := by
  split
  · apply Attempt.bind_ne_ok
    intro order
    split
    · intro h
      exact hown (Option.some.inj (Except.ok.inj h))
    · exact hrest
  · exact hrest

theorem none_ne_required : (pure none : Attempt (Option Complaint)) ≠ .ok (some .required) := by
  intro h
  cases h

namespace Field

theorem checkText_ne_required (f : Field) (v : Value) : f.checkText v ≠ .ok (some .required) := by
  cases v with
  | text s => exact bounded_ne_required (by simp) (bounded_ne_required (by simp) none_ne_required)
  | _ =>
    intro h
    cases h

theorem checkNumber_ne_required (f : Field) (v : Value) :
    f.checkNumber v ≠ .ok (some .required) := by
  unfold checkNumber
  split
  · simp
  · simp
  · exact bounded_ne_required (by simp) (bounded_ne_required (by simp) none_ne_required)

theorem checkDate_ne_required (f : Field) (v : Value) : f.checkDate v ≠ some .required := by
  unfold checkDate
  split
  · simp
  · split
    · simp
    · split <;> simp

theorem checkOption_ne_required (f : Field) (v : Value) :
    f.checkOption v ≠ .ok (some .required) := by
  unfold checkOption
  dsimp only
  split
  · apply Attempt.bind_ne_ok
    intro options
    apply Attempt.bind_ne_ok
    intro values h
    split at h <;> cases h
  · exact none_ne_required

/-- A value is asked for exactly where it is blank and the field is required. -/
theorem check_eq_required_iff {f : Field} {v : Value} :
    f.check v = .ok (some .required) ↔ isBlank v = true ∧ f.required = true := by
  unfold check
  by_cases hv : isBlank v
  · rw [if_pos hv]
    cases f.required <;> simp [hv]
  · rw [if_neg hv]
    simp only [hv, Bool.false_eq_true, false_and, iff_false]
    generalize f.type? = t
    split
    · exact f.checkText_ne_required v
    · exact f.checkText_ne_required v
    · split <;> simp
    · split <;> simp
    · exact f.checkNumber_ne_required v
    · intro h
      exact f.checkDate_ne_required v (Except.ok.inj h)
    · exact f.checkOption_ne_required v
    · exact f.checkOption_ne_required v
    · simp
    · simp
    · simp

end Field

end ServiceBlueprint.Form
