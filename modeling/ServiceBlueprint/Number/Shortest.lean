import ServiceBlueprint.Number.Binary64

/-!
# The shortest decimal of a double

The decimals that read back as a given double fill an interval around it, whose ends belong to it
when the significand is even. Grids of one, two, three significant digits are tried in turn, and
on each the two neighbours of the double: the first grid with a point in the interval wins, and of
two points the nearer one.
-/

namespace ServiceBlueprint.Binary64

/-- The open or closed interval of the rationals that round to a double, as fractions over one
common denominator: `low / den` to `high / den` around `mid / den`. -/
structure Basin where
  low : Nat
  mid : Nat
  high : Nat
  den : Nat
  closed : Bool

/-- Below a power of two the neighbours are half as far apart as above it. -/
def basin (m : Nat) (e : Int) : Basin :=
  let narrow := m = Nat.pow 2 (precision - 1) ∧ e > minExponent
  let below := if narrow then 4 * m - 1 else 4 * m - 2
  let up := if 0 ≤ e then Nat.pow 2 e.toNat else 1
  let down := if 0 ≤ e then 1 else Nat.pow 2 (-e).toNat
  ⟨below * up, 4 * m * up, (4 * m + 2) * up, 4 * down, m % 2 = 0⟩

/-- Whether `digit * 10 ^ power` lies in the basin. -/
def Basin.contains (b : Basin) (digits : Nat) (power : Int) : Bool :=
  let (n, d) := if 0 ≤ power then (digits * Nat.pow 10 power.toNat * b.den, 1)
    else (digits * b.den, Nat.pow 10 (-power).toNat)
  if b.closed then b.low * d ≤ n && n ≤ b.high * d else b.low * d < n && n < b.high * d

/-- The power of ten with `10 ^ p ≤ num / den < 10 ^ (p + 1)`, searched from a guess that is at
most one too large. -/
def decimalOrder (num den : Nat) : Int :=
  let bits : Int := (num.log2 : Int) - den.log2
  let guess := (bits * 30103).fdiv 100000 + 1
  let reaches (p : Int) : Bool :=
    if 0 ≤ p then den * Nat.pow 10 p.toNat ≤ num else den ≤ num * Nat.pow 10 (-p).toNat
  if reaches guess then guess
  else if reaches (guess - 1) then guess - 1
  else guess - 2

/-- The neighbours of the value on the grid of `count` digits, the nearer of those in the basin. -/
def Basin.onGrid? (b : Basin) (order : Int) (count : Nat) : Option (Nat × Int) :=
  let power := order - (count - 1 : Nat)
  let (n, d) := if 0 ≤ power then (b.mid, b.den * Nat.pow 10 power.toNat)
    else (b.mid * Nat.pow 10 (-power).toNat, b.den)
  let lower := n / d
  let rest := n % d
  let upper := if rest = 0 then lower else lower + 1
  match b.contains lower power, b.contains upper power with
  | true, true =>
    if 2 * rest < d || (2 * rest = d && lower % 2 = 0) then some (lower, power)
    else some (upper, power)
  | true, false => some (lower, power)
  | false, true => some (upper, power)
  | false, false => none

def Basin.search (b : Basin) (order : Int) : Nat → Nat → Nat × Int
  | 0, count => (b.onGrid? order count).getD (0, 0)
  | fuel + 1, count => (b.onGrid? order count).getD (b.search order fuel (count + 1))

/-- The digits and the power of ten of the shortest decimal of a positive finite double. Seventeen
digits always suffice. -/
def shortest (m : Nat) (e : Int) : Nat × Int :=
  let b := basin m e
  b.search (decimalOrder b.mid b.den) 17 1

/-- How the decimals of doubles are laid out. -/
structure FloatFormat where
  /-- Decimal orders from this one are written with an exponent. -/
  upperOrder : Int
  /-- Decimal orders below this one are written with an exponent. -/
  lowerOrder : Int
  /-- Positional text keeps one digit after the point. -/
  keepPoint : Bool
  exponentDigits : Nat
  infinity : String
  indeterminate : String

def padLeft (c : Char) (width : Nat) (s : List Char) : List Char :=
  List.replicate (width - s.length) c ++ s

def dropTrailingZeros (ds : List Char) : List Char :=
  (ds.reverse.dropWhile (· == '0')).reverse

def exponentText (f : FloatFormat) (order : Int) : List Char :=
  'e' :: (if order < 0 then '-' else '+') ::
    padLeft '0' f.exponentDigits (Nat.toDigits 10 order.natAbs)

/-- The text of digits whose first digit has the given decimal order. -/
def layOut (f : FloatFormat) (ds : List Char) (order : Int) : List Char :=
  if order ≥ f.upperOrder ∨ order < f.lowerOrder then
    match ds with
    | [] => []
    | [d] => d :: exponentText f order
    | d :: r => d :: '.' :: (r ++ exponentText f order)
  else if order < 0 then
    '0' :: '.' :: (List.replicate ((-order).toNat - 1) '0' ++ ds)
  else
    let whole := order.toNat + 1
    let padded := ds ++ List.replicate (whole - ds.length) '0'
    let fraction := padded.drop whole
    if fraction.isEmpty then
      padded ++ (if f.keepPoint then ['.', '0'] else [])
    else padded.take whole ++ '.' :: fraction

def render (f : FloatFormat) : Binary64 → String
  | .indeterminate => f.indeterminate
  | .infinite negative => (if negative then "-" else "") ++ f.infinity
  | .finite negative m e =>
    let sign := if negative then ['-'] else []
    if m = 0 then String.ofList (sign ++ layOut f ['0'] 0)
    else
      let (digits, power) := shortest m e
      let ds := Nat.toDigits 10 digits
      let order := power + (ds.length - 1 : Nat)
      String.ofList (sign ++ layOut f (dropTrailingZeros ds) order)

end ServiceBlueprint.Binary64
