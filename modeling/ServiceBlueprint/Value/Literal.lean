import ServiceBlueprint.Number.Shortest
import ServiceBlueprint.Text.Quoted
import ServiceBlueprint.Value.Basic

/-!
# The text of values in messages

`literal` writes a value so that its kind can be seen: texts are quoted, collections are bracketed.
`display` is the same but for a text, which stands for itself, and for a moment in time, which is
written in ISO form.
-/

namespace ServiceBlueprint

/-- Doubles are positional from 0.0001 to below 10 ^ 16 and keep a digit after the point; exponents
have at least two digits. -/
def floatFormat : Binary64.FloatFormat where
  upperOrder := 16
  lowerOrder := -4
  keepPoint := true
  exponentDigits := 2
  infinity := "inf"
  indeterminate := "nan"

def Date.literal (d : Date) : String :=
  "datetime.date(" ++ toString d.year ++ ", " ++ toString d.month ++ ", " ++ toString d.day ++ ")"

/-- A length of time as days, seconds and microseconds, the latter two never negative. -/
def durationLiteral (micros : Int) : String :=
  let days := micros.fdiv Timestamp.microsPerDay
  let rest := (micros - days * Timestamp.microsPerDay).toNat
  let part (name : String) (n : Int) : List String :=
    if n = 0 then [] else [name ++ "=" ++ toString n]
  let parts := part "days" days ++ part "seconds" (rest / Timestamp.microsPerSecond : Nat) ++
    part "microseconds" (rest % Timestamp.microsPerSecond : Nat)
  "datetime.timedelta(" ++ (if parts.isEmpty then "0" else ", ".intercalate parts) ++ ")"

def Timestamp.literal (t : Timestamp) : String :=
  let tail :=
    if t.microsecond ≠ 0 then [t.second, t.microsecond]
    else if t.second ≠ 0 then [t.second]
    else []
  let numbers := [t.date.year, t.date.month, t.date.day, t.hour, t.minute] ++ tail
  let zone := match t.offset with
    | none => []
    | some o =>
      if o = 0 then ["tzinfo=datetime.timezone.utc"]
      else ["tzinfo=datetime.timezone(" ++ durationLiteral o ++ ")"]
  "datetime.datetime(" ++ ", ".intercalate (numbers.map toString ++ zone) ++ ")"

namespace Value

mutual

def literal : Value → String
  | .null => "None"
  | .bool b => if b then "True" else "False"
  | .int n => toString n
  | .float x => x.render floatFormat
  | .text s => Text.quoted s
  | .bytes bs => Text.quotedOctets bs
  | .date d => d.literal
  | .timestamp t => t.literal
  | .list xs => "[" ++ ", ".intercalate (literals xs) ++ "]"
  | .tuple xs =>
    match xs with
    | [x] => "(" ++ literal x ++ ",)"
    | xs => "(" ++ ", ".intercalate (literals xs) ++ ")"
  | .set xs =>
    if xs.isEmpty then "set()" else "\x7b" ++ ", ".intercalate (literals xs) ++ "\x7d"
  | .map es => "\x7b" ++ ", ".intercalate (entryLiterals es) ++ "\x7d"

def literals : List Value → List String
  | [] => []
  | x :: xs => literal x :: literals xs

def entryLiterals : List (Value × Value) → List String
  | [] => []
  | (k, v) :: es => (literal k ++ ": " ++ literal v) :: entryLiterals es

end

def display : Value → String
  | .text s => s
  | .date d => d.isoText
  | .timestamp t => t.textWith " "
  | v => v.literal

end Value

end ServiceBlueprint
