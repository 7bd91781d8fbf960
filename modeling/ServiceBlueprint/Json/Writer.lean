import ServiceBlueprint.Value.Literal

/-!
# Writing JSON

Texts are written in ASCII with the other characters escaped unit by unit. Items are separated by a
comma and a blank. A value that JSON does not know is written as its text.
-/

namespace ServiceBlueprint.Json

/-- Doubles as elsewhere, but with the words of JSON's common extension for those not finite. -/
def floatFormat : Binary64.FloatFormat :=
  { ServiceBlueprint.floatFormat with infinity := "Infinity", indeterminate := "NaN" }

def escapeUnit (n : Nat) : List Char :=
  '\\' :: 'u' :: Text.hexDigits 4 n

def escapeChar (c : Char) : List Char :=
  match c with
  | '"' => ['\\', '"']
  | '\\' => ['\\', '\\']
  | '\n' => ['\\', 'n']
  | '\r' => ['\\', 'r']
  | '\t' => ['\\', 't']
  | '\x08' => ['\\', 'b']
  | '\x0c' => ['\\', 'f']
  | c =>
    let n := c.toNat
    if 32 ≤ n ∧ n < 127 then [c]
    else if n < 0x10000 then escapeUnit n
    else escapeUnit (0xD800 + (n - 0x10000) / 0x400) ++ escapeUnit (0xDC00 + (n - 0x10000) % 0x400)

def writeText (s : String) : String :=
  String.ofList ('"' :: (s.toList.flatMap escapeChar ++ ['"']))

def keyText : Value → String
  | .null => "null"
  | .bool b => if b then "true" else "false"
  | .float x => x.render floatFormat
  | v => v.display

mutual

def write : Value → String
  | .null => "null"
  | .bool b => if b then "true" else "false"
  | .int n => toString n
  | .float x => x.render floatFormat
  | .text s => writeText s
  | .list xs => "[" ++ ", ".intercalate (writeItems xs) ++ "]"
  | .tuple xs => "[" ++ ", ".intercalate (writeItems xs) ++ "]"
  | .map es => "\x7b" ++ ", ".intercalate (writeMembers es) ++ "\x7d"
  | v => writeText v.display

def writeItems : List Value → List String
  | [] => []
  | x :: xs => write x :: writeItems xs

def writeMembers : List (Value × Value) → List String
  | [] => []
  | (k, v) :: es => (writeText (keyText k) ++ ": " ++ write v) :: writeMembers es

end

end ServiceBlueprint.Json
