import ServiceBlueprint.Proofs.Number.Rounding

/-!
# The range of doubles

Whole numbers become infinities half a unit of the last place beyond the greatest double, and no
sooner: there the significand rounds to a power of two, which takes the exponent out of its range.
-/

namespace ServiceBlueprint

/-- A quotient is rounded to its integer part or to the next integer. -/
theorem roundHalfEven_bounds (num den : Nat) :
    num / den ≤ roundHalfEven num den ∧ roundHalfEven num den ≤ num / den + 1 := by
  have hparity : num / den % 2 ≤ 1 := by omega
  simp only [roundHalfEven]
  split
  · omega
  · split <;> omega

/-- A half above an odd number goes up to the even one. -/
theorem roundHalfEven_le_odd_iff {num den k : Nat} (hden : 0 < den) (hodd : k % 2 = 1) :
    roundHalfEven num den ≤ k ↔ 2 * num < (2 * k + 1) * den := by
  have hnum : den * (num / den) + num % den = num := Nat.div_add_mod num den
  have hrest : num % den < den := Nat.mod_lt num hden
  have hbounds := roundHalfEven_bounds num den
  have hexpand : (2 * k + 1) * den = 2 * (den * k) + den := by ring
  rcases Nat.lt_trichotomy (num / den) k with hless | heq | hmore
  · have hstep : den * (num / den + 1) ≤ den * k := Nat.mul_le_mul_left den hless
    rw [Nat.mul_succ] at hstep
    omega
  · simp only [roundHalfEven, heq]
    rw [heq] at hnum
    split
    · omega
    · split <;> omega
  · have hstep : den * (k + 1) ≤ den * (num / den) := Nat.mul_le_mul_left den hmore
    rw [Nat.mul_succ] at hstep
    omega

namespace Binary64

/-- The significand of a number is a whole number of at most 53 bits, or the next power of two. -/
theorem significand_le {num : Nat} {e : Int} (he : (num.log2 : Int) - 52 = e) :
    roundHalfEven (num * 2 ^ (-e).toNat) (2 ^ e.toNat) ≤ 2 ^ 53 := by
  have hquotient : num * 2 ^ (-e).toNat / 2 ^ e.toNat < 2 ^ 53 := by
    rw [Nat.div_lt_iff_lt_mul (Nat.two_pow_pos _)]
    calc num * 2 ^ (-e).toNat
        < 2 ^ (num.log2 + 1) * 2 ^ (-e).toNat :=
          Nat.mul_lt_mul_of_pos_right Nat.lt_log2_self (Nat.two_pow_pos _)
      _ = 2 ^ 53 * 2 ^ e.toNat := by
          rw [← Nat.pow_add, ← Nat.pow_add]
          congr 1
          omega
  have hbounds := roundHalfEven_bounds (num * 2 ^ (-e).toNat) (2 ^ e.toNat)
  omega

/-- A number overflows by its exponent, or by one less if its significand is rounded up to a power
of two. -/
theorem ofRatio_isFinite_iff (negative : Bool) {num : Nat} {e : Int} (h : num ≠ 0)
    (he : (num.log2 : Int) - 52 = e) :
    (ofRatio negative num 1).isFinite = true ↔
      e < 971 ∨ e = 971 ∧ roundHalfEven (num * 2 ^ (-e).toNat) (2 ^ e.toNat) < 2 ^ 53 := by
  have hle := significand_le he
  have hcarry : Nat.pow 2 precision = 2 ^ 53 := rfl
  have hmax : maxExponent = 971 := rfl
  unfold ofRatio
  rw [if_neg h, exponentFor_one h, he]
  simp only [scaleDown_one, hcarry, hmax]
  generalize roundHalfEven (num * 2 ^ (-e).toNat) (2 ^ e.toNat) = m at hle ⊢
  by_cases hm : m = 2 ^ 53
  · simp only [if_pos hm]
    by_cases hlarge : e + 1 > 971
    · rw [if_pos hlarge]
      simp only [isFinite, Bool.false_eq_true, false_iff]
      omega
    · rw [if_neg hlarge]
      simp only [isFinite, true_iff]
      omega
  · simp only [if_neg hm]
    by_cases hlarge : e > 971
    · rw [if_pos hlarge]
      simp only [isFinite, Bool.false_eq_true, false_iff]
      omega
    · rw [if_neg hlarge]
      simp only [isFinite, true_iff]
      omega

/-- The greatest double is `2 ^ 1024 - 2 ^ 971`, and half a unit of its last place is `2 ^ 970`. -/
theorem ofInt_isFinite_iff (n : Int) :
    (ofInt n).isFinite = true ↔ n.natAbs < 2 ^ 1024 - 2 ^ 970 := by
  have hunit : (2 : Nat) ^ 971 = 2 * 2 ^ 970 := by rw [← pow_succ']
  have hlimit : (2 : Nat) ^ 1024 = 2 ^ 54 * 2 ^ 970 := by rw [← pow_add]
  have hpos : 0 < (2 : Nat) ^ 970 := pow_pos two_pos 970
  unfold ofInt
  by_cases hzero : n.natAbs = 0
  · rw [hzero]
    simp only [ofRatio, if_pos, isFinite, true_iff]
    omega
  · rw [ofRatio_isFinite_iff _ hzero rfl]
    generalize n.natAbs = num at hzero ⊢
    have hlow : 2 ^ num.log2 ≤ num := Nat.log2_self_le hzero
    have hhigh : num < 2 ^ (num.log2 + 1) := Nat.lt_log2_self
    rcases Nat.lt_trichotomy num.log2 1023 with hless | heq | hmore
    · have hpow : (2 : Nat) ^ (num.log2 + 1) ≤ 2 ^ 1023 := pow_le_pow_right₀ one_le_two hless
      have hhalf : (2 : Nat) ^ 1024 = 2 * 2 ^ 1023 := by rw [← pow_succ']
      omega
    · -- the exponent is the greatest one, so the rounding of the significand decides
      rw [heq]
      have hodd : roundHalfEven (num * 2 ^ 0) (2 ^ 971) ≤ 2 ^ 53 - 1 ↔
          2 * (num * 2 ^ 0) < (2 * (2 ^ 53 - 1) + 1) * 2 ^ 971 :=
        roundHalfEven_le_odd_iff (pow_pos two_pos 971) (by decide)
      have hexponent : ((1023 : Nat) : Int) - 52 = 971 := by omega
      have hdown : (-971 : Int).toNat = 0 := by omega
      have hup : (971 : Int).toNat = 971 := by omega
      rw [hexponent, hdown, hup]
      omega
    · have hpow : (2 : Nat) ^ 1024 ≤ 2 ^ num.log2 := pow_le_pow_right₀ one_le_two hmore
      omega

end Binary64

end ServiceBlueprint
