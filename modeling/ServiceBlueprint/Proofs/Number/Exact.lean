import Mathlib.Algebra.Order.Field.Power
import Mathlib.Algebra.Order.Ring.Rat
import Mathlib.Order.WithBot
import ServiceBlueprint.Value.Access

/-!
# The exact values of numbers

A double that is not indeterminate stands for a rational number or for one of the infinities.
Comparing doubles and integers is comparing what they stand for, with no rounding.
-/

namespace ServiceBlueprint

/-- The rational numbers with an infinity at each end. -/
abbrev Exact := WithBot (WithTop ℚ)

namespace Exact

def ofRat (q : ℚ) : Exact := WithBot.some (WithTop.some q)

def infinite (negative : Bool) : Exact := if negative then ⊥ else ⊤

theorem strictMono_ofRat : StrictMono ofRat :=
  WithBot.coe_strictMono.comp WithTop.coe_strictMono

theorem ofRat_ne_infinite (q : ℚ) (a : Bool) : ofRat q ≠ infinite a := by
  cases a
  · exact WithBot.coe_injective.ne WithTop.coe_ne_top
  · exact WithBot.coe_ne_bot

theorem compare_ofRat (p q : ℚ) : compare (ofRat p) (ofRat q) = compare p q := by
  rw [← cmp_eq_compare, ← cmp_eq_compare]
  exact strictMono_ofRat.cmp_map_eq p q

theorem compare_infinite (a b : Bool) : compare (infinite a) (infinite b) = compare b a := by
  cases a <;> cases b
  · exact compare_eq_iff_eq.mpr rfl
  · exact compare_gt_iff_gt.mpr bot_lt_top
  · exact compare_lt_iff_lt.mpr bot_lt_top
  · exact compare_eq_iff_eq.mpr rfl

theorem compare_infinite_ofRat (a : Bool) (q : ℚ) :
    compare (infinite a) (ofRat q) = if a then .lt else .gt := by
  cases a
  · exact compare_gt_iff_gt.mpr (WithBot.coe_lt_coe.mpr (WithTop.coe_lt_top q))
  · exact compare_lt_iff_lt.mpr (WithBot.bot_lt_coe _)

theorem compare_ofRat_infinite (b : Bool) (q : ℚ) :
    compare (ofRat q) (infinite b) = if b then .gt else .lt := by
  cases b
  · exact compare_lt_iff_lt.mpr (WithBot.coe_lt_coe.mpr (WithTop.coe_lt_top q))
  · exact compare_gt_iff_gt.mpr (WithBot.bot_lt_coe _)

theorem swap_compare (a b : Exact) : (compare a b).swap = compare b a := by
  rw [← cmp_eq_compare, ← cmp_eq_compare, cmp_swap]

end Exact

open Exact

namespace Binary64

def toExact? : Binary64 → Option Exact
  | .indeterminate => none
  | .infinite negative => some (Exact.infinite negative)
  | .finite negative m e => some (ofRat (signed negative m * 2 ^ e))

/-- Both are scaled by the same power of two. -/
theorem compareScaled_eq (a e b f : Int) :
    compareScaled a e b f = compare ((a : ℚ) * 2 ^ e) ((b : ℚ) * 2 ^ f) := by
  have hscale : ∀ (c g : Int), min e f ≤ g →
      (c : ℚ) * 2 ^ g = ((c * Int.pow 2 (g - min e f).toNat : Int) : ℚ) * 2 ^ min e f := by
    intro c g hg
    have hpow : ((Int.pow 2 (g - min e f).toNat : Int) : ℚ) = 2 ^ (g - min e f) := by
      change (((2 : Int) ^ (g - min e f).toNat : Int) : ℚ) = _
      rw [Int.cast_pow, ← zpow_natCast, Int.toNat_of_nonneg (by omega)]
      rfl
    rw [Int.cast_mul, hpow, mul_assoc, ← zpow_add₀ two_ne_zero, Int.sub_add_cancel]
  have hmono : StrictMono fun n : Int => (n : ℚ) * 2 ^ min e f := by
    intro m n hmn
    have hpos : (0 : ℚ) < 2 ^ min e f := zpow_pos two_pos _
    exact mul_lt_mul_of_pos_right (Int.cast_lt.mpr hmn) hpos
  rw [hscale a e (min_le_left e f), hscale b f (min_le_right e f), ← cmp_eq_compare]
  unfold compareScaled
  rw [← cmp_eq_compare]
  exact (hmono.cmp_map_eq _ _).symm

theorem compare?_eq (x y : Binary64) :
    x.compare? y = (do return compare (← x.toExact?) (← y.toExact?)) := by
  cases x with
  | indeterminate => rfl
  | infinite a =>
    cases y with
    | indeterminate => rfl
    | infinite b => exact congrArg some (compare_infinite a b).symm
    | finite t n f => exact congrArg some (compare_infinite_ofRat a _).symm
  | finite s m e =>
    cases y with
    | indeterminate => rfl
    | infinite b => exact congrArg some (compare_ofRat_infinite b _).symm
    | finite t n f =>
      change some _ = some (compare _ _)
      rw [compareScaled_eq, compare_ofRat]

theorem compareInt?_eq (x : Binary64) (n : Int) :
    x.compareInt? n = x.toExact?.map fun a => compare a (ofRat n) := by
  cases x with
  | indeterminate => rfl
  | infinite a => exact congrArg some (compare_infinite_ofRat a _).symm
  | finite s m e =>
    change some _ = some (compare _ _)
    rw [compareScaled_eq, compare_ofRat, zpow_zero, mul_one]

end Binary64

namespace Value

def Quantity.toExact? : Quantity → Option Exact
  | .whole n => some (ofRat n)
  | .real x => x.toExact?

theorem Quantity.compare?_eq (a b : Quantity) :
    a.compare? b = (do return compare (← a.toExact?) (← b.toExact?)) := by
  cases a with
  | whole m =>
    cases b with
    | whole n =>
      change some (compare m n) = some (compare (ofRat m) (ofRat n))
      rw [compare_ofRat, ← cmp_eq_compare, ← cmp_eq_compare]
      exact congrArg some (Int.cast_strictMono.cmp_map_eq m n).symm
    | real y =>
      change (y.compareInt? m).map Ordering.swap =
        y.toExact?.bind fun b => some (compare (ofRat m) b)
      rw [Binary64.compareInt?_eq]
      cases y.toExact? with
      | none => rfl
      | some b => exact congrArg some (swap_compare b _)
  | real x =>
    cases b with
    | whole n =>
      change x.compareInt? n = x.toExact?.bind fun a => some (compare a (ofRat n))
      rw [Binary64.compareInt?_eq]
      cases x.toExact? <;> rfl
    | real y => exact Binary64.compare?_eq x y

/-- What a number stands for; a truth value is none. -/
def toExact? (v : Value) : Option Exact :=
  v.number?.bind Quantity.toExact?

end Value

end ServiceBlueprint
