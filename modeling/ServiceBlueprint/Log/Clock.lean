import ServiceBlueprint.Calendar.Timestamp
import ServiceBlueprint.Value.Access

/-!
# Seconds since 1970

Times of records are numbers of seconds from the start of 1970, universal time. A time is written
in ISO form, rounded to microseconds, where the calendar has a day for it; with the fraction cut
off it is written in plain form for days of any year.
-/

namespace ServiceBlueprint.Log

open ServiceBlueprint.Value (Quantity)

def epochOrdinal : Int := (⟨1970, 1, 1⟩ : Date).toOrdinal

def microsPerSecond : Int := Timestamp.microsPerSecond

/-- The nearest integer; a half goes to the even neighbour. -/
def roundToInt? : Binary64 → Option Int
  | .finite negative m e =>
    some (signed negative
      (if 0 ≤ e then m * Nat.pow 2 e.toNat else roundHalfEven m (Nat.pow 2 (-e).toNat)))
  | _ => none

/-- Microseconds since 1970. The part of a second is made microseconds, and only then rounded. -/
def microsOf? : Quantity → Option Int
  | .whole n => some (n * microsPerSecond)
  | .real x => do
    let whole ← x.truncate?
    let part := x.add (Binary64.ofInt whole).negate
    return whole * microsPerSecond + (← roundToInt? (part.mul (.ofInt microsPerSecond)))

def secondsOf? : Quantity → Option Int
  | .whole n => some n
  | .real x => x.floor?

def isoTime? (created : Quantity) : Option String := do
  let micros := (← microsOf? created) + epochOrdinal * Timestamp.microsPerDay
  let days := micros.fdiv Timestamp.microsPerDay
  if days < 1 ∨ (Date.maxOrdinal : Int) < days then none
  else return (Timestamp.ofMicros (some 0) micros.toNat).isoText

def secondsPerDay : Int := 86400

/-- The days of four hundred years, after which the calendar begins anew. -/
def daysPerCycle : Int := 146097

/-- Years are kept as distances from 1900 in 32 bits. -/
def isYear (year : Int) : Bool :=
  -Int.pow 2 31 ≤ year - 1900 && year - 1900 < Int.pow 2 31

def plainTime? (created : Quantity) : Option String := do
  let seconds ← secondsOf? created
  let day := epochOrdinal + seconds.fdiv secondsPerDay - 1
  let ofDay := (seconds.fmod secondsPerDay).toNat
  let date := Date.ofOrdinal (day.fmod daysPerCycle + 1).toNat
  let year := date.year + 400 * day.fdiv daysPerCycle
  if isYear year then
    return toString year ++ "-" ++ Date.padded 2 date.month ++ "-" ++ Date.padded 2 date.day ++ " " ++
      Timestamp.clockText (ofDay / 3600) (ofDay / 60 % 60) (ofDay % 60)
  else none

end ServiceBlueprint.Log
