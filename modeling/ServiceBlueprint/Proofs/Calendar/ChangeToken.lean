import Mathlib
import ServiceBlueprint.Proofs.Calendar.Instant
import ServiceBlueprint.Proofs.Text.Numerals

/-!
# Versions as tokens of change

A version can be told from another one by its numbers, though the width of its year is not fixed:
no two of them stand together. Its numbers are those of calendar and clock in universal time, and
these agree down to the millisecond exactly if the instants fall in the same one. So two versions
are equal exactly if nothing has changed for a millisecond or more.
-/

namespace ServiceBlueprint

theorem numbersIn_padded {width n : Nat} (hw : 0 < width) (hn : n < 10 ^ width) :
    numbersIn (Date.padded width n) = [n] := by
  obtain ⟨hlen, hdigits, hvalue⟩ := padded_spec hw hn
  have hne : Date.padded width n ≠ "" := by
    rw [ne_eq, ← String.toList_eq_nil_iff, ← List.length_eq_zero_iff, hlen]
    exact Nat.ne_of_gt hw
  rw [numbersIn_of_digits hne hdigits, hvalue]

namespace Timestamp

open Date (padded)

/-- The millisecond of universal time that the instant falls in. -/
def millisecond (t : Timestamp) : Int :=
  t.universalMicros / 1000

/-- Two readings of calendar and clock agree, but for microseconds within one millisecond. -/
structure AgreeToMillisecond (t u : Timestamp) : Prop where
  date : t.date = u.date
  hour : t.hour = u.hour
  minute : t.minute = u.minute
  second : t.second = u.second
  millisecond : t.microsecond / 1000 = u.microsecond / 1000

section

variable {t u : Timestamp}

theorem OnClock.agreeToMillisecond_iff (ht : t.OnClock) (hu : u.OnClock) :
    AgreeToMillisecond t u ↔ (t.localMicros : Int) / 1000 = u.localMicros / 1000 := by
  constructor
  · rintro ⟨hdate, hhour, hminute, hsecond, hmilli⟩
    unfold localMicros microsOfDay microsPerDay microsPerSecond
    rw [hdate, hhour, hminute, hsecond]
    omega
  · intro h
    obtain ⟨hdate, hhour, hminute, hsecond, hmicro⟩ := ht
    obtain ⟨hdate', hhour', hminute', hsecond', hmicro'⟩ := hu
    unfold localMicros microsOfDay microsPerDay microsPerSecond at h
    have hday : t.date.toOrdinal = u.date.toOrdinal := by omega
    constructor
    case date => rw [← Date.ofOrdinal_toOrdinal hdate, hday, Date.ofOrdinal_toOrdinal hdate']
    all_goals omega

/-- The numbers in a version are those of calendar and clock. -/
theorem OnClock.numbersIn_versionText (h : t.OnClock) : numbersIn t.versionText =
    [t.date.year, t.date.month, t.date.day, t.hour, t.minute, t.second, t.microsecond / 1000] := by
  obtain ⟨hdate, hhour, hminute, hsecond, hmicro⟩ := h
  obtain ⟨-, hmonth, hday⟩ := Date.bounds_of_isReal hdate
  have hyear : numbersIn (toString t.date.year) = [t.date.year] := numbersIn_toString _
  have htwo {n : Nat} (hn : n < 10 ^ 2) : numbersIn (padded 2 n) = [n] :=
    numbersIn_padded (by omega) hn
  have hmilli : numbersIn (padded 3 (t.microsecond / 1000)) = [t.microsecond / 1000] :=
    numbersIn_padded (by omega) (by omega)
  unfold versionText plainText clockText
  rw [numbersIn_append_right _ (by simp)]
  simp only [String.append_assoc]
  rw [numbersIn_append_separated _ (by decide) (by simp), hyear,
    numbersIn_append_separated _ (by decide) (by simp), htwo hmonth,
    numbersIn_append_separated _ (by decide) (by simp), htwo hday,
    numbersIn_append_separated _ (by decide) (by simp), htwo (by omega),
    numbersIn_append_separated _ (by decide) (by simp), htwo (by omega),
    numbersIn_append_separated _ (by decide) (by simp), htwo (by omega), hmilli]
  rfl

theorem OnClock.versionText_eq_iff (ht : t.OnClock) (hu : u.OnClock) :
    t.versionText = u.versionText ↔ AgreeToMillisecond t u := by
  constructor
  · intro h
    have hnumbers := congrArg numbersIn h
    rw [ht.numbersIn_versionText, hu.numbersIn_versionText] at hnumbers
    simp only [List.cons.injEq, and_true] at hnumbers
    obtain ⟨hyear, hmonth, hday, hhour, hminute, hsecond, hmilli⟩ := hnumbers
    have hdate : t.date = u.date := by
      change (⟨t.date.year, t.date.month, t.date.day⟩ : Date) = ⟨u.date.year, _, _⟩
      rw [hyear, hmonth, hday]
    exact ⟨hdate, hhour, hminute, hsecond, hmilli⟩
  · rintro ⟨hdate, hhour, hminute, hsecond, hmilli⟩
    unfold versionText plainText
    rw [hdate, hhour, hminute, hsecond, hmilli]

theorem within_of_version? (h : t.isReal = true) {v : String} (hv : t.version? = some v) :
    t.Within 1 Date.maxYear := by
  by_contra hout
  rw [version?_eq_none h hout] at hv
  cases hv

/-- Where two timestamps have versions, these are equal exactly if the instants fall in the same
millisecond, whatever the offsets. -/
theorem version_eq_iff_millisecond_eq (ht : t.isReal = true) (hu : u.isReal = true) {v w : String}
    (hv : t.version? = some v) (hw : u.version? = some w) :
    v = w ↔ t.millisecond = u.millisecond := by
  obtain ⟨r, hr, hinstant, htext⟩ := exists_version ht (within_of_version? ht hv)
  obtain ⟨r', hr', hinstant', htext'⟩ := exists_version hu (within_of_version? hu hw)
  obtain rfl := Option.some.inj (hv.symm.trans htext)
  obtain rfl := Option.some.inj (hw.symm.trans htext')
  rw [hr.versionText_eq_iff hr', hr.agreeToMillisecond_iff hr', hinstant, hinstant']
  rfl

end

/-- Half past midnight in a zone ahead of universal time, on the day after a leap day. -/
def marchNight : Timestamp := ⟨⟨2024, 3, 1⟩, 0, 30, 15, 987654, some 19800000000⟩

/-- The same millisecond in universal time, without an offset. -/
def leapEvening : Timestamp := ⟨⟨2024, 2, 29⟩, 19, 0, 15, 987001, none⟩

theorem version_eq_iff_millisecond_eq_marchNight :
    marchNight.isReal = true ∧ leapEvening.isReal = true ∧
      ∃ v w, marchNight.version? = some v ∧ leapEvening.version? = some w ∧
        marchNight.millisecond = leapEvening.millisecond ∧ v = w := by
  have hnight : marchNight.isReal = true := by decide
  have hevening : leapEvening.isReal = true := by decide
  have hsame : marchNight.millisecond = leapEvening.millisecond := by decide
  have hv : marchNight.version? = some "2024-02-29T19:00:15.987Z" := by cbv
  have hw : leapEvening.version? = some "2024-02-29T19:00:15.987Z" := by cbv
  exact ⟨hnight, hevening, _, _, hv, hw, hsame,
    (version_eq_iff_millisecond_eq hnight hevening hv hw).mpr hsame⟩

end Timestamp

end ServiceBlueprint
