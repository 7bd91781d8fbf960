import Mathlib.Algebra.Ring.Parity
import Mathlib.Tactic.FieldSimp
import Mathlib.Tactic.Ring
import ServiceBlueprint.Proofs.Number.Exact

/-!
# Doubles that are whole numbers

A significand is divided by two as long as it is even. What is left is odd, so that the double is a
whole number exactly if no negative power of two is left with it.
-/

namespace ServiceBlueprint.Binary64

/-- Halving a significand and counting its power of two up does not change the value. -/
theorem reduce_value (k m : Nat) (e : Int) :
    ((reduce k m e).1 : ℚ) * 2 ^ (reduce k m e).2 = m * 2 ^ e := by
  induction k generalizing m e with
  | zero => rfl
  | succ k ih =>
    unfold reduce
    split
    next h =>
      obtain ⟨half, rfl⟩ := Nat.dvd_of_mod_eq_zero h.2
      rw [ih, Nat.mul_div_cancel_left _ (by omega), zpow_add_one₀ two_ne_zero]
      push_cast
      ring
    next => rfl

/-- With as many steps as the significand has binary digits, the last one is reached. -/
theorem odd_reduce {k m : Nat} (e : Int) (hm : m ≠ 0) (hk : m < 2 ^ k) : Odd (reduce k m e).1 := by
  induction k generalizing m e with
  | zero => omega
  | succ k ih =>
    unfold reduce
    split
    next h =>
      rw [Nat.pow_succ] at hk
      exact ih (e + 1) (by omega) (by omega)
    next h =>
      rw [Nat.odd_iff]
      omega

theorem natAbs_signed (negative : Bool) (m : Nat) : (signed negative m).natAbs = m := by
  unfold signed
  cases negative
  · rfl
  · exact Int.natAbs_neg m

theorem cast_signed (negative : Bool) (m : Nat) :
    (signed negative m : ℚ) = (if negative then -1 else 1) * m := by
  unfold signed
  cases negative
  · simp
  · simp

/-- An odd number over a power of two is not whole. -/
theorem ne_of_odd {a n : Int} (ha : Odd a) {f : Int} (hf : f < 0) : (a : ℚ) * 2 ^ f ≠ n := by
  obtain ⟨k, hk⟩ := Int.eq_ofNat_of_zero_le (by omega : 0 ≤ -f - 1)
  obtain rfl : f = -((k : Int) + 1) := by omega
  intro h
  have hscaled : (a : ℚ) = n * 2 ^ (k + 1) := by
    rw [← h, mul_assoc, ← zpow_natCast, ← zpow_add₀ two_ne_zero]
    simp
  have hint : a = n * 2 ^ (k + 1) := by exact_mod_cast hscaled
  rw [hint, Int.pow_succ, ← Int.mul_assoc] at ha
  exact Int.not_odd_iff_even.mpr (even_two.mul_left _) ha

/-- A double is read as a whole number exactly if it is one. -/
theorem toInt?_eq_some_iff {x : Binary64} {n : Int} :
    x.toInt? = some n ↔ x.toExact? = some (.ofRat n) := by
  cases x with
  | indeterminate => simp [toInt?, toExact?]
  | infinite negative =>
    simp only [toInt?, toExact?, Option.some.injEq, reduceCtorEq, false_iff]
    exact (Exact.ofRat_ne_infinite _ _).symm
  | finite negative m e =>
    rw [toExact?, Option.some.injEq, Exact.strictMono_ofRat.injective.eq_iff]
    by_cases hm : m = 0
    · simp [toInt?, hm, signed, eq_comm]
    · have hvalue := reduce_value (m.log2 + 1) m e
      have hodd := odd_reduce e hm Nat.lt_log2_self
      rw [cast_signed, mul_assoc, ← hvalue, ← mul_assoc, ← cast_signed, toInt?, if_neg hm]
      generalize reduce (m.log2 + 1) m e = r at hodd ⊢
      obtain ⟨a, f⟩ := r
      dsimp only at hodd ⊢
      by_cases hf : 0 ≤ f
      · have hpow : ((a * Nat.pow 2 f.toNat : Nat) : ℚ) = a * 2 ^ f := by
          rw [Nat.pow_eq, Nat.cast_mul, Nat.cast_pow, ← zpow_natCast, Int.toNat_of_nonneg hf]
          rfl
        rw [if_pos hf, Option.some.injEq, ← @Int.cast_inj ℚ, cast_signed, hpow, cast_signed,
          mul_assoc]
      · have hsigned : Odd (signed negative a) := by
          rw [← Int.natAbs_odd, natAbs_signed]
          exact hodd
        rw [if_neg hf]
        simp [ne_of_odd hsigned (Int.not_le.mp hf)]

end ServiceBlueprint.Binary64
