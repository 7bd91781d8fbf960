import ServiceBlueprint.Proofs.Calendar.Ordinal
import ServiceBlueprint.Proofs.Calendar.TimeText

/-!
# Instants and versions

A clock reading and the count of microseconds up to it determine each other. A timestamp whose
instant falls in the calendar of universal time has a version, which is the reading of that instant
written to the millisecond, and only from the year 1000 on is a version read as a timestamp again.
-/

namespace ServiceBlueprint.Timestamp

open Date (padded)

/-- A reading of calendar and clock, whatever its offset. -/
structure OnClock (t : Timestamp) : Prop where
  date : t.date.isReal = true
  hour : t.hour < 24
  minute : t.minute < 60
  second : t.second < 60
  microsecond : t.microsecond < 1000000

/-- The first microsecond of a year. -/
def startOf (year : Nat) : Int :=
  ((Date.daysBeforeYear year + 1) * microsPerDay : Nat)

/-- The instant falls in one of the years from the first to the last of universal time. -/
def Within (t : Timestamp) (first last : Nat) : Prop :=
  startOf first ≤ t.universalMicros ∧ t.universalMicros < startOf (last + 1)

section

variable {t u : Timestamp}

theorem onClock_of_isReal (h : t.isReal = true) : t.OnClock := by
  unfold isReal at h
  simp only [Bool.and_eq_true, decide_eq_true_eq] at h
  obtain ⟨⟨⟨⟨⟨hdate, hhour⟩, hminute⟩, hsecond⟩, hmicro⟩, -⟩ := h
  exact ⟨hdate, hhour, hminute, hsecond, hmicro⟩

/-! ### Microseconds -/

theorem OnClock.microsOfDay_lt (h : t.OnClock) : t.microsOfDay < microsPerDay := by
  obtain ⟨-, hhour, hminute, hsecond, hmicro⟩ := h
  unfold microsOfDay microsPerDay microsPerSecond
  omega

/-- The year of a reading has not come exactly if the reading is before its first microsecond. -/
theorem OnClock.year_lt_iff (h : t.OnClock) {year : Nat} (hyear : 1 ≤ year) :
    t.date.year < year ↔ (t.localMicros : Int) < startOf year := by
  have hday := h.microsOfDay_lt
  rw [Date.year_lt_iff h.date hyear]
  unfold startOf localMicros
  unfold microsPerDay microsPerSecond at *
  omega

theorem OnClock.localMicros_bounds (h : t.OnClock) :
    startOf 1 ≤ t.localMicros ∧ (t.localMicros : Int) < startOf (Date.maxYear + 1) := by
  obtain ⟨⟨hfirst, hlast⟩, -⟩ := Date.isReal_iff.mp h.date
  rw [← h.year_lt_iff (by omega)]
  refine ⟨?_, by omega⟩
  rw [← Int.not_lt, ← h.year_lt_iff (by omega)]
  omega

/-- A count of microseconds within the calendar is that of a reading. -/
theorem ofMicros_spec {n : Nat} (offset : Option Int) (hfirst : startOf 1 ≤ n)
    (hlast : (n : Int) < startOf (Date.maxYear + 1)) :
    (ofMicros offset n).OnClock ∧ (ofMicros offset n).localMicros = n := by
  have hstart : startOf 1 = (86400000000 : Nat) := rfl
  have hend : startOf (Date.maxYear + 1) = ((Date.maxOrdinal + 1) * 86400000000 : Nat) := rfl
  rw [hstart] at hfirst
  rw [hend] at hlast
  obtain ⟨hreal, hordinal⟩ := Date.ofOrdinal_spec (n := n / 86400000000) (by omega) (by omega)
  constructor
  · constructor
    case date => exact hreal
    all_goals
      unfold ofMicros microsPerDay microsPerSecond
      dsimp only
      omega
  · unfold localMicros microsOfDay ofMicros microsPerDay microsPerSecond
    dsimp only
    rw [hordinal]
    omega

theorem OnClock.ofMicros_localMicros (h : t.OnClock) : ofMicros t.offset t.localMicros = t := by
  obtain ⟨hdate, hhour, hminute, hsecond, hmicro⟩ := h
  have hdays : t.localMicros / microsPerDay = t.date.toOrdinal := by
    unfold localMicros microsOfDay microsPerDay microsPerSecond
    omega
  have hrest : t.localMicros % microsPerDay = t.microsOfDay := by
    unfold localMicros microsOfDay microsPerDay microsPerSecond
    omega
  rw [ofMicros, hdays, hrest, Date.ofOrdinal_toOrdinal hdate]
  unfold microsOfDay microsPerSecond
  cases t
  simp only [Timestamp.mk.injEq, true_and, and_true]
  dsimp only at hhour hminute hsecond hmicro
  omega

/-! ### Versions -/

/-- A reading written to the millisecond, with the sign of universal time. -/
def versionText (t : Timestamp) : String :=
  plainText "T" t ++ "." ++ padded 3 (t.microsecond / 1000) ++ "Z"

theorem version?_of_offset_none (h : t.offset = none) : t.version? = some t.versionText := by
  unfold version?
  rw [h]
  rfl

theorem version?_of_offset_some {o : Int} (h : t.offset = some o) :
    t.version? = t.toUniversal?.map versionText := by
  unfold version?
  rw [h]
  rfl

theorem universalMicros_of_offset_none (h : t.offset = none) : t.universalMicros = t.localMicros := by
  unfold universalMicros
  rw [h]
  exact Int.sub_zero _

theorem within_calendar_iff : t.Within 1 Date.maxYear ↔
    ¬ (t.universalMicros < microsPerDay ∨
      ((Date.maxOrdinal + 1) * microsPerDay : Nat) ≤ t.universalMicros) := by
  have hstart : startOf 1 = microsPerDay := rfl
  have hend : startOf (Date.maxYear + 1) = ((Date.maxOrdinal + 1) * microsPerDay : Nat) := rfl
  unfold Within
  rw [hstart, hend]
  omega

theorem version?_eq_none (h : t.isReal = true) (hout : ¬ t.Within 1 Date.maxYear) :
    t.version? = none := by
  cases ho : t.offset with
  | none =>
    have hbounds := (onClock_of_isReal h).localMicros_bounds
    rw [← universalMicros_of_offset_none ho] at hbounds
    exact absurd hbounds hout
  | some o =>
    rw [within_calendar_iff, not_not] at hout
    rw [version?_of_offset_some ho, toUniversal?, if_pos hout]
    rfl

/-- The version of an instant in the calendar is written from the reading of universal time. -/
theorem exists_version (h : t.isReal = true) (hin : t.Within 1 Date.maxYear) :
    ∃ u : Timestamp, u.OnClock ∧ (u.localMicros : Int) = t.universalMicros ∧
      t.version? = some u.versionText := by
  cases ho : t.offset with
  | none =>
    exact ⟨t, onClock_of_isReal h, (universalMicros_of_offset_none ho).symm,
      version?_of_offset_none ho⟩
  | some o =>
    have hnonneg : (t.universalMicros.toNat : Int) = t.universalMicros := by
      have hstart : startOf 1 = (86400000000 : Nat) := rfl
      have hfirst := hin.1
      omega
    obtain ⟨hclock, hlocal⟩ := ofMicros_spec (n := t.universalMicros.toNat) (some 0)
      (hnonneg.symm ▸ hin.1) (hnonneg.symm ▸ hin.2)
    refine ⟨ofMicros (some 0) t.universalMicros.toNat, hclock, ?_, ?_⟩
    · rw [hlocal, hnonneg]
    · rw [version?_of_offset_some ho, toUniversal?, if_neg (within_calendar_iff.mp hin)]
      rfl

end

end ServiceBlueprint.Timestamp
