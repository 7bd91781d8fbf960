import ServiceBlueprint.Calendar.Date

/-!
# Points in time, with or without an offset

A timestamp is a day and a time of day to the microsecond. With an offset, it names an instant;
without one it is read as universal time. `version` writes the instant to the millisecond.
-/

namespace ServiceBlueprint

structure Timestamp where
  date : Date
  hour : Nat
  minute : Nat
  second : Nat
  microsecond : Nat
  /-- The distance of the local time from universal time, in microseconds. -/
  offset : Option Int
  deriving DecidableEq, Repr, Inhabited

namespace Timestamp

def microsPerSecond : Nat := 1000000
def microsPerDay : Nat := 86400 * microsPerSecond

def isReal (t : Timestamp) : Bool :=
  t.date.isReal && t.hour < 24 && t.minute < 60 && t.second < 60 &&
    t.microsecond < microsPerSecond &&
    match t.offset with
    | none => true
    | some o => o.natAbs < microsPerDay

def microsOfDay (t : Timestamp) : Nat :=
  ((t.hour * 60 + t.minute) * 60 + t.second) * microsPerSecond + t.microsecond

/-- Microseconds from the start of the day numbered zero, as read off the clock. -/
def localMicros (t : Timestamp) : Nat :=
  t.date.toOrdinal * microsPerDay + t.microsOfDay

/-- Microseconds of universal time; a timestamp without an offset is universal already. -/
def universalMicros (t : Timestamp) : Int :=
  t.localMicros - t.offset.getD 0

def ofMicros (offset : Option Int) (n : Nat) : Timestamp :=
  let rest := n % microsPerDay
  let seconds := rest / microsPerSecond
  { date := Date.ofOrdinal (n / microsPerDay)
    hour := seconds / 3600
    minute := seconds / 60 % 60
    second := seconds % 60
    microsecond := rest % microsPerSecond
    offset := offset }

/-- The same instant in universal time, unless it falls outside the calendar. -/
def toUniversal? (t : Timestamp) : Option Timestamp :=
  let n := t.universalMicros
  if n < microsPerDay ∨ ((Date.maxOrdinal + 1) * microsPerDay : Nat) ≤ n then none
  else some (ofMicros (some 0) n.toNat)

def clockText (hour minute second : Nat) : String :=
  Date.padded 2 hour ++ ":" ++ Date.padded 2 minute ++ ":" ++ Date.padded 2 second

def offsetText (o : Int) : String :=
  let micros := o.natAbs
  let seconds := micros / microsPerSecond
  let rest := micros % microsPerSecond
  (if o < 0 then "-" else "+") ++ Date.padded 2 (seconds / 3600) ++ ":" ++
    Date.padded 2 (seconds / 60 % 60) ++
    (if seconds % 60 = 0 ∧ rest = 0 then "" else ":" ++ Date.padded 2 (seconds % 60)) ++
    (if rest = 0 then "" else "." ++ Date.padded 6 rest)

def textWith (separator : String) (t : Timestamp) : String :=
  t.date.isoText ++ separator ++ clockText t.hour t.minute t.second ++
    (if t.microsecond = 0 then "" else "." ++ Date.padded 6 t.microsecond) ++
    (match t.offset with
      | none => ""
      | some o => offsetText o)

def isoText (t : Timestamp) : String :=
  t.textWith "T"

/-- Date and clock with the year unpadded. -/
def plainText (separator : String) (t : Timestamp) : String :=
  toString t.date.year ++ "-" ++ Date.padded 2 t.date.month ++ "-" ++ Date.padded 2 t.date.day ++
    separator ++ clockText t.hour t.minute t.second

/-- Universal time to the millisecond, unless the instant falls outside the calendar. -/
def version? (t : Timestamp) : Option String :=
  let write (t : Timestamp) : String :=
    plainText "T" t ++ "." ++ Date.padded 3 (t.microsecond / 1000) ++ "Z"
  match t.offset with
  | none => some (write t)
  | some _ => t.toUniversal?.map write

end Timestamp

end ServiceBlueprint
