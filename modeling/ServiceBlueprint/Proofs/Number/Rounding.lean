import Mathlib.Algebra.Order.Group.Unbundled.Int
import Mathlib.Tactic.Ring
import ServiceBlueprint.Proofs.Number.Exact

/-!
# Whole numbers as doubles

A whole number becomes the double nearest to it, or an infinity beyond the greatest one. A number of
few binary digits, with whatever zeros behind them, is a double itself and is not changed.
-/

namespace ServiceBlueprint

theorem roundHalfEven_mul (q : Nat) {den : Nat} (hden : 0 < den) :
    roundHalfEven (q * den) den = q := by
  unfold roundHalfEven
  rw [Nat.mul_mod_left, Nat.mul_div_cancel _ hden]
  exact if_pos (by omega)

namespace Binary64

/-- Of a power of two one part divides and the other multiplies. -/
theorem scaleDown_one (num : Nat) (e : Int) :
    scaleDown num 1 e = (num * 2 ^ (-e).toNat, 2 ^ e.toNat) := by
  unfold scaleDown
  rw [Nat.pow_eq, Nat.pow_eq]
  by_cases he : 0 ≤ e
  · rw [if_pos he, Int.toNat_of_nonpos (by omega : -e ≤ 0), Nat.pow_zero, Nat.mul_one, Nat.one_mul]
  · rw [if_neg he, Int.toNat_of_nonpos (by omega : e ≤ 0), Nat.pow_zero]

/-- A number is scaled to have all of its leading digits before the point. -/
theorem exponentFor_one {num : Nat} (h : num ≠ 0) :
    exponentFor num 1 = (num.log2 : Int) - 52 := by
  have hguess : (num.log2 : Int) - (Nat.log2 1 : Nat) - (precision : Nat) = num.log2 - 53 := by
    have hone : Nat.log2 1 = 0 := by decide
    rw [hone]
    rfl
  unfold exponentFor
  dsimp only
  rw [hguess, scaleDown_one]
  dsimp only
  rw [if_neg]
  · unfold minExponent
    omega
  · rw [Nat.not_lt, Nat.le_div_iff_mul_le (Nat.two_pow_pos _), Nat.pow_eq, ← Nat.pow_add]
    calc 2 ^ (precision + ((num.log2 : Int) - 53).toNat)
        = 2 ^ num.log2 * 2 ^ (-((num.log2 : Int) - 53)).toNat := by
          rw [← Nat.pow_add]
          congr 1
          unfold precision
          omega
      _ ≤ num * 2 ^ (-((num.log2 : Int) - 53)).toNat :=
          Nat.mul_le_mul_right _ (Nat.log2_self_le h)

/-- A number that its scaling leaves whole is not rounded. -/
theorem ofRatio_eq_finite (negative : Bool) {num q : Nat} {e : Int} (h : num ≠ 0)
    (he : (num.log2 : Int) - 52 = e) (hlog : num.log2 < 1024)
    (hq : num * 2 ^ (-e).toNat = q * 2 ^ e.toNat) :
    ofRatio negative num 1 = .finite negative q e := by
  have hround : roundHalfEven (num * 2 ^ (-e).toNat) (2 ^ e.toNat) = q := by
    rw [hq]
    exact roundHalfEven_mul q (Nat.two_pow_pos _)
  have hsmall : q < 2 ^ 53 := by
    apply Nat.lt_of_mul_lt_mul_right (a := 2 ^ e.toNat)
    calc q * 2 ^ e.toNat
        = num * 2 ^ (-e).toNat := hq.symm
      _ < 2 ^ (num.log2 + 1) * 2 ^ (-e).toNat :=
          Nat.mul_lt_mul_of_pos_right Nat.lt_log2_self (Nat.two_pow_pos _)
      _ = 2 ^ 53 * 2 ^ e.toNat := by
          rw [← Nat.pow_add, ← Nat.pow_add]
          congr 1
          omega
  have hcarry : ¬ q = Nat.pow 2 precision := Nat.ne_of_lt hsmall
  have hmax : ¬ e > maxExponent := by
    unfold maxExponent
    omega
  unfold ofRatio
  rw [if_neg h, exponentFor_one h, he]
  simp only [scaleDown_one, hround, if_neg hcarry, if_neg hmax]

/-- Only calculating with doubles leads to the indeterminate. -/
theorem ofInt_ne_indeterminate (n : Int) : ofInt n ≠ .indeterminate := by
  unfold ofInt ofRatio
  split
  · exact nofun
  · dsimp only
    split <;> split <;> exact nofun

theorem zpow_eq_div (e : Int) : (2 : ℚ) ^ e = 2 ^ e.toNat / 2 ^ (-e).toNat := by
  rw [← zpow_natCast, ← zpow_natCast, ← zpow_sub₀ two_ne_zero]
  congr 1
  omega

/-- A number that has at most 53 binary digits before zeros is itself a double. -/
theorem toExact?_ofInt {n m : Int} {e : Nat} (hn : n = m * 2 ^ e) (hm : m.natAbs < 2 ^ 53)
    (he : e ≤ 971) : (ofInt n).toExact? = some (.ofRat n) := by
  by_cases hzero : n = 0
  · subst hzero
    simp [ofInt, ofRatio, toExact?, signed]
  · have hnum : n.natAbs = m.natAbs * 2 ^ e := by
      rw [hn, Int.natAbs_mul, Int.natAbs_pow]
      rfl
    have hne : n.natAbs ≠ 0 := Int.natAbs_ne_zero.mpr hzero
    have hlog : n.natAbs.log2 < 53 + e := by
      rw [Nat.log2_lt hne, hnum, Nat.pow_add]
      exact Nat.mul_lt_mul_of_pos_right hm (Nat.two_pow_pos e)
    -- the digits that are left over are zeros
    have hq : n.natAbs * 2 ^ (-((n.natAbs.log2 : Int) - 52)).toNat =
        m.natAbs * 2 ^ (e + (-((n.natAbs.log2 : Int) - 52)).toNat -
          ((n.natAbs.log2 : Int) - 52).toNat) * 2 ^ ((n.natAbs.log2 : Int) - 52).toNat := by
      rw [hnum, Nat.mul_assoc, Nat.mul_assoc, ← Nat.pow_add, ← Nat.pow_add, ← hnum]
      congr 2
      omega
    unfold ofInt
    rw [ofRatio_eq_finite _ hne rfl (by omega) hq, toExact?]
    generalize m.natAbs * 2 ^ (e + (-((n.natAbs.log2 : Int) - 52)).toNat -
      ((n.natAbs.log2 : Int) - 52).toNat) = q at hq ⊢
    generalize (n.natAbs.log2 : Int) - 52 = k at hq ⊢
    have hscaled : (q : ℚ) * 2 ^ k = (n.natAbs : ℚ) := by
      rw [zpow_eq_div, ← mul_div_assoc, div_eq_iff (pow_ne_zero _ two_ne_zero)]
      exact_mod_cast hq.symm
    have hsign : ((signed (n < 0) q : Int) : ℚ) * 2 ^ k = n := by
      unfold signed
      by_cases hneg : n < 0
      · rw [decide_eq_true hneg, if_pos rfl, Int.cast_neg, Int.cast_natCast, neg_mul, hscaled,
          ← Int.cast_natCast, ← Int.cast_neg]
        exact congrArg _ (by omega)
      · rw [decide_eq_false hneg, if_neg Bool.false_ne_true, Int.cast_natCast, hscaled,
          ← Int.cast_natCast]
        exact congrArg _ (by omega)
    rw [hsign]

end Binary64

end ServiceBlueprint
