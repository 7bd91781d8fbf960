import Mathlib.Algebra.BigOperators.Group.List.Basic
import Mathlib.Algebra.GroupWithZero.Nat
import Mathlib.Data.Nat.Init
import Mathlib.Tactic.SplitIfs
import ServiceBlueprint.Calendar.Date

/-!
# The numbering of days

A year holds the days from the end of the year before to its own end, and these run through its
months. So every number from one up to that of the last day of the calendar is the number of just one
real day, which is found from it, and the number of a real day tells whether its year has come.
-/

namespace ServiceBlueprint.Date

/-! ### Years -/

theorem daysBeforeYear_succ (y : Nat) :
    daysBeforeYear (y + 1) = y * 365 + y / 4 - y / 100 + y / 400 :=
  rfl

theorem sum_monthLengths (year : Nat) :
    (monthLengths year).sum = if isLeap year then 366 else 365 := by
  unfold monthLengths
  cases isLeap year <;> rfl

theorem isLeap_iff {year : Nat} : isLeap year = true ↔ 4 ∣ year ∧ (¬ 100 ∣ year ∨ 400 ∣ year) := by
  unfold isLeap
  simp only [Bool.and_eq_true, Bool.or_eq_true, decide_eq_true_eq, Nat.dvd_iff_mod_eq_zero, ne_eq]

/-- Passing to the next year, a quotient grows by one just where its divisor divides the year. -/
theorem daysBeforeYear_next (y : Nat) :
    daysBeforeYear (y + 2) = daysBeforeYear (y + 1) + (monthLengths (y + 1)).sum := by
  have h400 : 400 ∣ y + 1 → 100 ∣ y + 1 := (Nat.dvd_of_mod_eq_zero rfl).trans
  have h100 : 100 ∣ y + 1 → 4 ∣ y + 1 := (Nat.dvd_of_mod_eq_zero rfl).trans
  have hcenturies : y / 100 ≤ y / 4 := Nat.div_le_div_left (by omega) (by omega)
  rw [sum_monthLengths, daysBeforeYear_succ, daysBeforeYear_succ, Nat.succ_div, Nat.succ_div,
    Nat.succ_div]
  simp only [isLeap_iff]
  generalize y / 4 = fours at *
  generalize y / 100 = centuries at *
  generalize y / 400 = cycles at *
  split_ifs <;> omega

theorem daysBeforeYear_mono {a b : Nat} (ha : 1 ≤ a) (hab : a ≤ b) :
    daysBeforeYear a ≤ daysBeforeYear b := by
  induction b, hab using Nat.le_induction with
  | base => exact Nat.le_refl _
  | succ b hab ih =>
    obtain ⟨y, rfl⟩ := Nat.exists_eq_add_of_le' (Nat.le_trans ha hab)
    rw [daysBeforeYear_next]
    exact Nat.le_trans ih (Nat.le_add_right _ _)

/-- The guess is never too late, and at most one year too early. -/
theorem yearOfOrdinal_spec {n : Nat} (hn : 1 ≤ n) :
    1 ≤ yearOfOrdinal n ∧ daysBeforeYear (yearOfOrdinal n) < n ∧
      n ≤ daysBeforeYear (yearOfOrdinal n + 1) := by
  unfold yearOfOrdinal
  dsimp only
  generalize hy : (n - 1) * 400 / 146097 = y
  have hguess : daysBeforeYear (y + 1) < n := by
    rw [daysBeforeYear_succ]
    omega
  rw [if_neg (Nat.not_le.mpr hguess)]
  split
  next hlate =>
    refine ⟨by omega, hlate, ?_⟩
    rw [daysBeforeYear_succ]
    omega
  next hearly => exact ⟨by omega, hguess, Nat.not_lt.mp hearly⟩

theorem daysBeforeYear_last : daysBeforeYear (maxYear + 1) = maxOrdinal :=
  rfl

/-! ### Months -/

theorem daysBeforeMonth_eq (year month : Nat) :
    daysBeforeMonth year month = ((monthLengths year).take (month - 1)).sum := by
  unfold daysBeforeMonth
  rw [List.sum_eq_foldl]

theorem length_monthLengths (year : Nat) : (monthLengths year).length = 12 := rfl

theorem daysInMonth_eq {year k : Nat} (hk : k < (monthLengths year).length) :
    daysInMonth year (1 + k) = (monthLengths year)[k] := by
  unfold daysInMonth
  rw [Nat.add_sub_cancel_left, List.getElem?_eq_getElem hk, Option.getD_some]

/-- A day of the year falls into the month in which the days of the months before it run out. -/
theorem locate_spec {lengths : List Nat} (month : Nat) {day : Nat} (hday : 1 ≤ day)
    (hsum : day ≤ lengths.sum) :
    ∃ k, ∃ hk : k < lengths.length, (locate month lengths day).1 = month + k ∧
      1 ≤ (locate month lengths day).2 ∧ (locate month lengths day).2 ≤ lengths[k] ∧
      (lengths.take k).sum + (locate month lengths day).2 = day := by
  induction lengths generalizing month day with
  | nil =>
    rw [List.sum_nil] at hsum
    omega
  | cons length rest ih =>
    unfold locate
    by_cases hfirst : day ≤ length
    · rw [if_pos hfirst]
      exact ⟨0, Nat.succ_pos _, rfl, hday, hfirst, by simp⟩
    · rw [if_neg hfirst]
      rw [List.sum_cons] at hsum
      have hpast : 1 ≤ day - length := by omega
      obtain ⟨k, hk, hmonth, hpos, hle, htotal⟩ := ih (month + 1) hpast (by omega)
      refine ⟨k + 1, Nat.succ_lt_succ hk, by omega, hpos, hle, ?_⟩
      rw [List.take_succ_cons, List.sum_cons]
      omega

/-- A day of a month, counted on from the months before it, is found in that month. -/
theorem locate_sum_take {lengths : List Nat} (month : Nat) {k : Nat} (hk : k < lengths.length)
    {day : Nat} (hday : 1 ≤ day) (hlength : day ≤ lengths[k]) :
    locate month lengths ((lengths.take k).sum + day) = (month + k, day) := by
  induction lengths generalizing month k with
  | nil => cases hk
  | cons length rest ih =>
    cases k with
    | zero =>
      rw [List.getElem_cons_zero] at hlength
      rw [List.take_zero, List.sum_nil, Nat.zero_add, locate, if_pos hlength]
      rfl
    | succ k =>
      have hpast : ¬ length + ((rest.take k).sum + day) ≤ length := by omega
      rw [List.take_succ_cons, List.sum_cons, Nat.add_assoc, locate, if_neg hpast,
        Nat.add_sub_cancel_left, ih (month + 1) (Nat.lt_of_succ_lt_succ hk) hlength,
        Nat.add_right_comm]
      rfl

/-! ### Days -/

theorem isReal_iff {d : Date} : d.isReal = true ↔ (1 ≤ d.year ∧ d.year ≤ maxYear) ∧
    (1 ≤ d.month ∧ d.month ≤ 12) ∧ 1 ≤ d.day ∧ d.day ≤ daysInMonth d.year d.month := by
  unfold isReal
  simp only [Bool.and_eq_true, decide_eq_true_eq, and_assoc]

/-- Every number of a day is that of a real day. -/
theorem ofOrdinal_spec {n : Nat} (hn : 1 ≤ n) (hmax : n ≤ maxOrdinal) :
    (ofOrdinal n).isReal = true ∧ (ofOrdinal n).toOrdinal = n := by
  obtain ⟨hyear, hbefore, hafter⟩ := yearOfOrdinal_spec hn
  have hlast : yearOfOrdinal n ≤ maxYear := by
    by_contra hlate
    have hmono := daysBeforeYear_mono (by decide : 1 ≤ maxYear + 1) (Nat.not_le.mp hlate)
    rw [daysBeforeYear_last] at hmono
    omega
  unfold ofOrdinal
  dsimp only
  generalize yearOfOrdinal n = year at *
  obtain ⟨y, rfl⟩ := Nat.exists_eq_add_of_le' hyear
  rw [daysBeforeYear_next] at hafter
  have hfirst : 1 ≤ n - daysBeforeYear (y + 1) := by omega
  have hlength : n - daysBeforeYear (y + 1) ≤ (monthLengths (y + 1)).sum := by omega
  obtain ⟨k, hk, hmonth, hpos, hle, htotal⟩ := locate_spec 1 hfirst hlength
  rw [isReal_iff, toOrdinal, daysBeforeMonth_eq]
  dsimp only
  rw [hmonth, daysInMonth_eq hk, Nat.add_sub_cancel_left]
  rw [length_monthLengths] at hk
  exact ⟨⟨⟨hyear, hlast⟩, ⟨by omega, by omega⟩, hpos, hle⟩, by omega⟩

/-- A real day stands between the ends of the year before and of its own. -/
theorem toOrdinal_bounds {d : Date} (h : d.isReal = true) :
    daysBeforeYear d.year < d.toOrdinal ∧ d.toOrdinal ≤ daysBeforeYear (d.year + 1) := by
  obtain ⟨⟨hyear, -⟩, ⟨hmonth, htwelve⟩, hday, hlength⟩ := isReal_iff.mp h
  obtain ⟨y, hy⟩ := Nat.exists_eq_add_of_le' hyear
  obtain ⟨k, hk⟩ := Nat.exists_eq_add_of_le hmonth
  have hlt : k < (monthLengths d.year).length := by
    rw [length_monthLengths]
    omega
  have htake := List.sum_take_succ (monthLengths d.year) k hlt
  have htotal := List.sum_take_add_sum_drop (monthLengths d.year) (k + 1)
  rw [hk, daysInMonth_eq hlt] at hlength
  rw [toOrdinal, daysBeforeMonth_eq, hk, Nat.add_sub_cancel_left, hy, daysBeforeYear_next, ← hy]
  omega

theorem year_lt_iff {d : Date} (h : d.isReal = true) {year : Nat} (hyear : 1 ≤ year) :
    d.year < year ↔ d.toOrdinal ≤ daysBeforeYear year := by
  obtain ⟨hbefore, hafter⟩ := toOrdinal_bounds h
  constructor
  · intro hlt
    exact Nat.le_trans hafter (daysBeforeYear_mono (Nat.succ_pos _) hlt)
  · intro hle
    by_contra hge
    have hmono := daysBeforeYear_mono hyear (Nat.not_lt.mp hge)
    omega

theorem yearOfOrdinal_toOrdinal {d : Date} (h : d.isReal = true) :
    yearOfOrdinal d.toOrdinal = d.year := by
  have hbefore := (toOrdinal_bounds h).1
  obtain ⟨hpos, hearlier, hlater⟩ := yearOfOrdinal_spec (by omega : 1 ≤ d.toOrdinal)
  have hle := (year_lt_iff h (Nat.succ_pos (yearOfOrdinal d.toOrdinal))).mpr hlater
  have hge := mt (year_lt_iff h hpos).mp (Nat.not_le.mpr hearlier)
  omega

/-- Every real day is found from its number. -/
theorem ofOrdinal_toOrdinal {d : Date} (h : d.isReal = true) : ofOrdinal d.toOrdinal = d := by
  obtain ⟨-, ⟨hmonth, htwelve⟩, hday, hlength⟩ := isReal_iff.mp h
  obtain ⟨k, hk⟩ := Nat.exists_eq_add_of_le hmonth
  have hlt : k < (monthLengths d.year).length := by
    rw [length_monthLengths]
    omega
  have hrest : d.toOrdinal - daysBeforeYear d.year =
      ((monthLengths d.year).take k).sum + d.day := by
    rw [toOrdinal, daysBeforeMonth_eq, hk, Nat.add_sub_cancel_left]
    omega
  rw [hk, daysInMonth_eq hlt] at hlength
  unfold ofOrdinal
  dsimp only
  rw [yearOfOrdinal_toOrdinal h, hrest, locate_sum_take 1 hlt hday hlength, ← hk]

end ServiceBlueprint.Date
