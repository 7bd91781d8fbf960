import ServiceBlueprint.Number.Shortest

/-!
# Decimals with a given number of digits

A fraction is rounded once, a half going to the even neighbour, either at a given place behind the
point or to a given number of significant digits. The text is positional, or has an exponent of at
least two digits.
-/

namespace ServiceBlueprint.Number

/-- Whether the point stays when no digit follows it, and zeros at the end with it. -/
abbrev KeepsPoint := Bool

def withFraction (keep : KeepsPoint) (whole fraction : List Char) : List Char :=
  if fraction.isEmpty && !keep then whole else whole ++ '.' :: fraction

/-- Digits with the last `places` of them behind the point. -/
def placePoint (keep : KeepsPoint) (places : Nat) (digits : List Char) : List Char :=
  let ds := Binary64.padLeft '0' (places + 1) digits
  let whole := ds.length - places
  withFraction keep (ds.take whole) (ds.drop whole)

def fixedPlaces (keep : KeepsPoint) (places num den : Nat) : List Char :=
  placePoint keep places (Nat.toDigits 10 (roundHalfEven (num * Nat.pow 10 places) den))

/-- The first digits of a fraction, at least one, and the power of ten of the first. -/
def significant (count num den : Nat) : List Char × Int :=
  if num = 0 then (List.replicate count '0', 0)
  else
    let order := Binary64.decimalOrder num den
    let power := order - (count - 1 : Nat)
    let n := if 0 ≤ power then roundHalfEven num (den * Nat.pow 10 power.toNat)
      else roundHalfEven (num * Nat.pow 10 (-power).toNat) den
    if n = Nat.pow 10 count then (Nat.toDigits 10 (n / 10), order + 1) else (Nat.toDigits 10 n, order)

def exponent (order : Int) : List Char :=
  'e' :: (if order < 0 then '-' else '+') ::
    Binary64.padLeft '0' 2 (Nat.toDigits 10 order.natAbs)

def scientific (keep : KeepsPoint) (places num den : Nat) : List Char :=
  let (ds, order) := significant (places + 1) num den
  withFraction keep (ds.take 1) (ds.drop 1) ++ exponent order

def dropZeros (keep : KeepsPoint) (ds : List Char) : List Char :=
  if keep then ds else Binary64.dropTrailingZeros ds

/-- Positional if the first digit is neither below the fourth place behind the point nor beyond
the digits there are, and with an exponent otherwise. -/
def general (keep : KeepsPoint) (count num den : Nat) : List Char :=
  let count := max count 1
  let (ds, order) := significant count num den
  if order < -4 ∨ (count : Int) ≤ order then
    withFraction keep (ds.take 1) (dropZeros keep (ds.drop 1)) ++ exponent order
  else if order < 0 then
    withFraction keep ['0']
      (dropZeros keep (List.replicate ((-order).toNat - 1) '0' ++ ds))
  else
    let whole := order.toNat + 1
    withFraction keep (ds.take whole) (dropZeros keep (ds.drop whole))

end ServiceBlueprint.Number
