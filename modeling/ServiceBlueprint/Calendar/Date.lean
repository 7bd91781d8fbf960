/-!
# Days of the proleptic Gregorian calendar

Days run from 1 January of year 1 to 31 December of year 9999 and are numbered from one.
`ofOrdinal` guesses the year from the mean length of a year, which is at most one off.
-/

namespace ServiceBlueprint

structure Date where
  year : Nat
  month : Nat
  day : Nat
  deriving DecidableEq, Repr, Inhabited

namespace Date

def isLeap (year : Nat) : Bool :=
  year % 4 = 0 && (year % 100 ≠ 0 || year % 400 = 0)

def monthLengths (year : Nat) : List Nat :=
  [31, if isLeap year then 29 else 28, 31, 30, 31, 30, 31, 31, 30, 31, 30, 31]

def daysInMonth (year month : Nat) : Nat :=
  (monthLengths year)[month - 1]?.getD 0

def maxYear : Nat := 9999

def isReal (d : Date) : Bool :=
  1 ≤ d.year && d.year ≤ maxYear && 1 ≤ d.month && d.month ≤ 12 &&
    1 ≤ d.day && d.day ≤ daysInMonth d.year d.month

def real? (year month day : Nat) : Option Date :=
  let d : Date := ⟨year, month, day⟩
  if d.isReal then some d else none

/-- The days of all years before the given one. -/
def daysBeforeYear (year : Nat) : Nat :=
  let y := year - 1
  y * 365 + y / 4 - y / 100 + y / 400

def daysBeforeMonth (year month : Nat) : Nat :=
  ((monthLengths year).take (month - 1)).foldl (· + ·) 0

def toOrdinal (d : Date) : Nat :=
  daysBeforeYear d.year + daysBeforeMonth d.year d.month + d.day

def yearOfOrdinal (n : Nat) : Nat :=
  let guess := (n - 1) * 400 / 146097 + 1
  if n ≤ daysBeforeYear guess then guess - 1
  else if daysBeforeYear (guess + 1) < n then guess + 1
  else guess

/-- The month and the day of a day of the year, counted from the given month. -/
def locate (month : Nat) : List Nat → Nat → Nat × Nat
  | [], day => (month, day)
  | length :: rest, day => if day ≤ length then (month, day) else locate (month + 1) rest (day - length)

def ofOrdinal (n : Nat) : Date :=
  let year := yearOfOrdinal n
  let (month, day) := locate 1 (monthLengths year) (n - daysBeforeYear year)
  ⟨year, month, day⟩

def maxOrdinal : Nat := 3652059

/-- Monday is zero. -/
def weekday (d : Date) : Nat :=
  (d.toOrdinal + 6) % 7

/-- The day of a week of a year, where week one holds the year's first Thursday. -/
def ofWeek? (year week day : Nat) : Option Date :=
  if year < 1 ∨ maxYear < year then none
  else
    let first := weekday ⟨year, 1, 1⟩
    let hasWeek53 := first = 3 ∨ (first = 2 ∧ isLeap year)
    if week < 1 ∨ 53 < week ∨ (week = 53 ∧ ¬ hasWeek53) then none
    else if day < 1 ∨ 7 < day then none
    else
      let firstOfYear := daysBeforeYear year + 1
      let weekOne : Int := (firstOfYear : Int) - first + (if first > 3 then 7 else 0)
      let n := weekOne + (week - 1) * 7 + (day - 1)
      if n < 1 ∨ (maxOrdinal : Int) < n then none else some (ofOrdinal n.toNat)

def padded (width n : Nat) : String :=
  let ds := Nat.toDigits 10 n
  String.ofList (List.replicate (width - ds.length) '0' ++ ds)

def isoText (d : Date) : String :=
  padded 4 d.year ++ "-" ++ padded 2 d.month ++ "-" ++ padded 2 d.day

def precedes (a b : Date) : Bool :=
  a.toOrdinal < b.toOrdinal

end Date

end ServiceBlueprint
