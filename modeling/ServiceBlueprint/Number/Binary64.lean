/-!
# Double precision numbers

A number is a sign, a significand and a power of two, or one of the infinities, or the
indeterminate. Everything is computed exactly on integers and rounded once, to nearest with ties
to the even significand, so that sums, products, readings and comparisons need no machine
arithmetic.
-/

namespace ServiceBlueprint

inductive Binary64 where
  | indeterminate
  | infinite (negative : Bool)
  | finite (negative : Bool) (significand : Nat) (exponent : Int)
  deriving DecidableEq, Repr, Inhabited

/-- The integer nearest to `num / den`; a half goes to the even neighbour. -/
def roundHalfEven (num den : Nat) : Nat :=
  let q := num / den
  let r := num % den
  if 2 * r < den then q
  else if 2 * r = den then q + q % 2
  else q + 1

def signed (negative : Bool) (n : Nat) : Int :=
  if negative then -n else n

namespace Binary64

def precision : Nat := 53
def minExponent : Int := -1074
def maxExponent : Int := 971

def zero : Binary64 := .finite false 0 minExponent

/-- `num / (den * 2 ^ e)` as a fraction of natural numbers. -/
def scaleDown (num den : Nat) (e : Int) : Nat × Nat :=
  if 0 ≤ e then (num, den * Nat.pow 2 e.toNat) else (num * Nat.pow 2 (-e).toNat, den)

/-- The exponent at which the quotient `num / den` has exactly `precision` bits before the point,
or the least exponent there is. -/
def exponentFor (num den : Nat) : Int :=
  let guess : Int := (num.log2 : Int) - den.log2 - precision
  let (n, d) := scaleDown num den guess
  let e := if n / d < Nat.pow 2 precision then guess else guess + 1
  max e minExponent

/-- The double nearest to `num / den`. -/
def ofRatio (negative : Bool) (num den : Nat) : Binary64 :=
  if num = 0 then .finite negative 0 minExponent
  else
    let e := exponentFor num den
    let (n, d) := scaleDown num den e
    let m := roundHalfEven n d
    let (m, e) := if m = Nat.pow 2 precision then (Nat.pow 2 (precision - 1), e + 1) else (m, e)
    if e > maxExponent then .infinite negative else .finite negative m e

/-- The double nearest to `digits * 10 ^ power`. Powers far outside the range are settled without
computing them. -/
def ofDecimal (negative : Bool) (digits : Nat) (power : Int) : Binary64 :=
  if digits = 0 then .finite negative 0 minExponent
  else
    let width : Int := (Nat.toDigits 10 digits).length
    if width + power > 400 then .infinite negative
    else if width + power < -400 then .finite negative 0 minExponent
    else if 0 ≤ power then ofRatio negative (digits * Nat.pow 10 power.toNat) 1
    else ofRatio negative digits (Nat.pow 10 (-power).toNat)

def ofInt (n : Int) : Binary64 := ofRatio (n < 0) n.natAbs 1

def isFinite : Binary64 → Bool
  | .finite .. => true
  | _ => false

/-- A finite double as `n * 2 ^ e` with an integer `n`. -/
def toScaled? : Binary64 → Option (Int × Int)
  | .finite negative m e => some (signed negative m, e)
  | _ => none

/-- The order of `a * 2 ^ e` and `b * 2 ^ f`. -/
def compareScaled (a e b f : Int) : Ordering :=
  let low := min e f
  compare (a * Int.pow 2 (e - low).toNat) (b * Int.pow 2 (f - low).toNat)

/-- The order of two doubles by value; the indeterminate has no place in it. -/
def compare? : Binary64 → Binary64 → Option Ordering
  | .indeterminate, _ => none
  | _, .indeterminate => none
  | .infinite a, .infinite b => some (compare b a)
  | .infinite a, .finite .. => some (if a then .lt else .gt)
  | .finite .., .infinite b => some (if b then .gt else .lt)
  | .finite s m e, .finite t n f =>
    some (compareScaled (signed s m) e (signed t n) f)

/-- The order of a double and an integer by value, with no rounding of the integer. -/
def compareInt? : Binary64 → Int → Option Ordering
  | .indeterminate, _ => none
  | .infinite negative, _ => some (if negative then .lt else .gt)
  | .finite s m e, n => some (compareScaled (signed s m) e n 0)

/-- Drops factors of two from a significand, at most as many as the first argument says. -/
def reduce : Nat → Nat → Int → Nat × Int
  | 0, m, e => (m, e)
  | k + 1, m, e => if m ≠ 0 ∧ m % 2 = 0 then reduce k (m / 2) (e + 1) else (m, e)

/-- The integer a double stands for, if it is one. -/
def toInt? : Binary64 → Option Int
  | .finite negative m e =>
    if m = 0 then some 0
    else
      let (m, e) := reduce (m.log2 + 1) m e
      if 0 ≤ e then some (signed negative (m * Nat.pow 2 e.toNat)) else none
  | _ => none

/-- The integer part, toward zero. -/
def truncate? : Binary64 → Option Int
  | .finite negative m e =>
    some (signed negative (if 0 ≤ e then m * Nat.pow 2 e.toNat else m / Nat.pow 2 (-e).toNat))
  | _ => none

/-- The integer at or below the value. -/
def floor? : Binary64 → Option Int
  | .finite negative m e =>
    let a := signed negative m
    some (if 0 ≤ e then a * Int.pow 2 e.toNat else a.fdiv (Int.pow 2 (-e).toNat))
  | _ => none

/-- The same value with the fewest bits in its significand. -/
def reduced : Binary64 → Binary64
  | .finite negative m e =>
    if m = 0 then zero
    else
      let (m, e) := reduce (m.log2 + 1) m e
      .finite negative m e
  | x => x

def isZero : Binary64 → Bool
  | .finite _ m _ => m == 0
  | _ => false

def isNegative : Binary64 → Bool
  | .finite s _ _ => s
  | .infinite s => s
  | .indeterminate => false

def negate : Binary64 → Binary64
  | .finite s m e => .finite (!s) m e
  | .infinite s => .infinite (!s)
  | .indeterminate => .indeterminate

def ofScaled (n e : Int) : Binary64 :=
  if 0 ≤ e then ofRatio (n < 0) (n.natAbs * Nat.pow 2 e.toNat) 1
  else ofRatio (n < 0) n.natAbs (Nat.pow 2 (-e).toNat)

/-- The rounded sum; two zeros of opposite sign, and opposite values, give the positive zero. -/
def add : Binary64 → Binary64 → Binary64
  | .indeterminate, _ => .indeterminate
  | _, .indeterminate => .indeterminate
  | .infinite a, .infinite b => if a = b then .infinite a else .indeterminate
  | .infinite a, .finite .. => .infinite a
  | .finite .., .infinite b => .infinite b
  | .finite s m e, .finite t n f =>
    if m = 0 ∧ n = 0 then .finite (s && t) 0 minExponent
    else
      let low := min e f
      ofScaled (signed s m * Int.pow 2 (e - low).toNat + signed t n * Int.pow 2 (f - low).toNat) low

/-- The rounded product. -/
def mul : Binary64 → Binary64 → Binary64
  | .indeterminate, _ => .indeterminate
  | _, .indeterminate => .indeterminate
  | .infinite a, .infinite b => .infinite (a != b)
  | .infinite a, .finite t n _ => if n = 0 then .indeterminate else .infinite (a != t)
  | .finite s m _, .infinite b => if m = 0 then .indeterminate else .infinite (s != b)
  | .finite s m e, .finite t n f =>
    if m * n = 0 then .finite (s != t) 0 minExponent
    else if 0 ≤ e + f then ofRatio (s != t) (m * n * Nat.pow 2 (e + f).toNat) 1
    else ofRatio (s != t) (m * n) (Nat.pow 2 (-(e + f)).toNat)

end Binary64

end ServiceBlueprint
