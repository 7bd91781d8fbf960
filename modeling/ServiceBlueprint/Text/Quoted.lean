import ServiceBlueprint.Text.Printable

/-!
# Quoted text

A text is quoted with single quotes, or with double quotes if it holds a single quote and no
double one. The backslash, the chosen quote and whatever cannot be shown are escaped, the latter
by name or by code point.
-/

namespace ServiceBlueprint.Text

def hexDigits (width n : Nat) : List Char :=
  let ds := Nat.toDigits 16 n
  List.replicate (width - ds.length) '0' ++ ds

def escapeChar (quote c : Char) : List Char :=
  if c = quote || c = '\\' then ['\\', c]
  else if c = '\t' then ['\\', 't']
  else if c = '\n' then ['\\', 'n']
  else if c = '\r' then ['\\', 'r']
  else if isPrintable c then [c]
  else if c.toNat < 0x100 then '\\' :: 'x' :: hexDigits 2 c.toNat
  else if c.toNat < 0x10000 then '\\' :: 'u' :: hexDigits 4 c.toNat
  else '\\' :: 'U' :: hexDigits 8 c.toNat

def quoteFor (cs : List Char) : Char :=
  if cs.contains '\'' && !cs.contains '"' then '"' else '\''

def quotedChars (cs : List Char) : List Char :=
  let quote := quoteFor cs
  quote :: (cs.flatMap (escapeChar quote) ++ [quote])

def quoted (s : String) : String :=
  String.ofList (quotedChars s.toList)

/-- Octets are quoted like text, those beyond ASCII by number. -/
def quotedOctets (octets : List Nat) : String :=
  let cs := octets.map Char.ofNat
  let quote := quoteFor cs
  let escape (c : Char) : List Char :=
    if c.toNat < 128 then escapeChar quote c else '\\' :: 'x' :: hexDigits 2 c.toNat
  String.ofList ('b' :: quote :: (cs.flatMap escape ++ [quote]))

end ServiceBlueprint.Text
