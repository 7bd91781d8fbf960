import ServiceBlueprint.Calendar.Timestamp
import ServiceBlueprint.Number.Binary64
import ServiceBlueprint.Text.Octets

/-!
# Reading dates and timestamps

Calendar dates are written `YYYY-MM-DD` or `YYYYMMDD`, week dates `YYYY-Www-D`, `YYYY-Www` and
their forms without hyphens. A timestamp is a date, one character of any kind, and a time of day
with or without colons, a fraction and an offset; its parts are found by position.
-/

namespace ServiceBlueprint.Calendar

/-- Texts are read as octets, so that positions and lengths do not depend on what is not ASCII. -/
abbrev Octets := List Nat

def isDigit (b : Nat) : Bool :=
  48 ≤ b && b ≤ 57

def code (c : Char) : Nat := c.toNat

/-- Exactly `count` digits, and what follows them. -/
def takeNumber : (count : Nat) → Octets → (soFar : Nat) → Option (Nat × Octets)
  | 0, rest, n => some (n, rest)
  | count + 1, b :: rest, n =>
    if isDigit b then takeNumber count rest (10 * n + (b - 48)) else none
  | _ + 1, [], _ => none

def startsWith (c : Char) : Octets → Bool
  | b :: _ => b == code c
  | [] => false

/-- The hyphen that a date with hyphens has at this place. -/
def takeHyphen (hyphens : Bool) (rest : Octets) : Option Octets :=
  if !hyphens then some rest
  else if startsWith '-' rest then some (rest.drop 1) else none

/-- The date at the front of a text whose date part is `length` octets long. A week date that
stops before its day means the Monday. -/
def readDateAt (s : Octets) (length : Nat) : Option Date := do
  let (year, rest) ← takeNumber 4 s 0
  let hyphens := startsWith '-' rest
  let rest := if hyphens then rest.drop 1 else rest
  if startsWith 'W' rest then
    let (week, rest) ← takeNumber 2 (rest.drop 1) 0
    if s.length - rest.length < length then
      let rest ← takeHyphen hyphens rest
      let (day, _) ← takeNumber 1 rest 0
      Date.ofWeek? year week day
    else Date.ofWeek? year week 1
  else
    let (month, rest) ← takeNumber 2 rest 0
    let rest ← takeHyphen hyphens rest
    let (day, _) ← takeNumber 2 rest 0
    Date.real? year month day

def readDate? (text : String) : Option Date :=
  let s := Text.toOctets text
  if s.length = 7 ∨ s.length = 8 ∨ s.length = 10 then readDateAt s s.length else none

/-- Where the date part ends. In a week date a further hyphen, or the number of digits up to the
first other character, tells whether a day follows the week. -/
def dateLength (s : Octets) : Nat :=
  let at? (i : Nat) (p : Nat → Bool) : Bool := (s[i]?.map p).getD false
  if s.length = 7 then 7
  else if at? 4 (· == code '-') then
    if at? 5 (· == code 'W') then
      if at? 8 (· == code '-') then
        if at? 10 isDigit then 8 else 10
      else 8
    else 10
  else if at? 4 (· == code 'W') then
    let stop := 7 + ((s.drop 7).takeWhile isDigit).length
    if stop < 9 then stop
    else if stop % 2 = 0 then 7
    else 8
  else 8

/-- A time of day and whether anything is left over behind it. -/
structure ClockReading where
  hour : Nat
  minute : Nat
  second : Nat
  microsecond : Nat
  leftover : Bool

/-- The fraction takes up to six digits and skips further ones. -/
def readFraction (hour minute second : Nat) (here : Octets) (after : Octets) :
    Option ClockReading := do
  let count := min here.length 6
  let (n, _) ← takeNumber count here 0
  let more := (here.drop 6 ++ after).dropWhile isDigit
  return ⟨hour, minute, second, n * Nat.pow 10 (6 - count), !more.isEmpty⟩

/-- Hours, minutes and seconds; the separator after the hours decides whether colons are used.
`after` is the text behind the part being read. -/
def readClock (here after : Octets) : Option ClockReading := do
  let (hour, rest) ← takeNumber 2 here 0
  if rest.length ≤ 1 then return ⟨hour, 0, 0, 0, !(rest ++ after).isEmpty⟩
  let colons := startsWith ':' rest
  let point (s : Octets) : Bool := startsWith '.' s || startsWith ',' s
  if point rest then
    return ← readFraction hour 0 0 (rest.drop 1) after
  let rest := if colons then rest.drop 1 else rest
  let (minute, rest) ← takeNumber 2 rest 0
  if rest.length ≤ 1 then return ⟨hour, minute, 0, 0, !(rest ++ after).isEmpty⟩
  if point rest then
    return ← readFraction hour minute 0 (rest.drop 1) after
  if colons && !startsWith ':' rest then none
  let rest := if colons then rest.drop 1 else rest
  let (second, rest) ← takeNumber 2 rest 0
  if rest.length ≤ 1 then return ⟨hour, minute, second, 0, !(rest ++ after).isEmpty⟩
  if point rest || (colons && startsWith ':' rest) then
    return ← readFraction hour minute second (rest.drop 1) after
  if colons then none
  readFraction hour minute second rest after

def isOffsetStart (b : Nat) : Bool :=
  b == code '+' || b == code '-' || b == code 'Z'

def assemble (date : Date) (t : ClockReading) (offset : Option Int) : Option Timestamp :=
  let stamp : Timestamp := ⟨date, t.hour, t.minute, t.second, t.microsecond, offset⟩
  if stamp.isReal then some stamp else none

def midnight : ClockReading := ⟨0, 0, 0, 0, false⟩

/-- An offset of less than a second counts as none. -/
def offsetMicros (z : ClockReading) : Nat :=
  let seconds := (z.hour * 60 + z.minute) * 60 + z.second
  if seconds = 0 then 0 else seconds * Timestamp.microsPerSecond + z.microsecond

/-- The time of day and the offset behind the separator. -/
def readTime (date : Date) (s : Octets) : Option Timestamp := do
  let here := s.takeWhile (!isOffsetStart ·)
  let after := s.drop here.length
  let clock ← readClock here after
  match after with
  | [] => if clock.leftover then none else assemble date clock none
  | sign :: zone =>
    if sign == code 'Z' then
      if zone.isEmpty then assemble date clock (some 0) else none
    else
      let z ← readClock zone []
      if z.leftover then none
      assemble date clock (some (signed (sign == code '-') (offsetMicros z)))

/-- The octets of the character that stands between date and time. -/
def separatorLength (lead : Nat) : Nat :=
  if lead < 128 then 1
  else if lead / 16 = 14 then 3
  else if lead / 16 = 15 then 4
  else 2

def readTimestamp? (text : String) : Option Timestamp := do
  let s := Text.toOctets text
  if s.length < 7 then none
  let length := dateLength s
  let date ← readDateAt s length
  match s.drop length with
  | [] => assemble date midnight none
  | lead :: rest =>
    readTime date (rest.drop (separatorLength lead - 1))

end ServiceBlueprint.Calendar
