import ServiceBlueprint.Fault

/-!
# A place in a text

A cursor knows what is left of a text and where it stands, by character, line and column. The
classes of characters at which words and lines end include the end of the text.
-/

namespace ServiceBlueprint.Markup

/-- Why a text gives no value: it is not well formed, or one of its scalars has no value. -/
inductive Failure where
  | malformed
  | faulty (fault : Fault)

def isBreak (c : Char) : Bool :=
  c = '\r' || c = '\n' || c = '\u0085' || c = '\u2028' || c = '\u2029'

/-- The end of a line or of the text. -/
def endsLine : Option Char → Bool
  | none => true
  | some c => isBreak c

/-- The end of a word that may hold tabs. -/
def endsWord : Option Char → Bool
  | none => true
  | some c => c = ' ' || isBreak c

def isGap : Option Char → Bool
  | none => true
  | some c => c = ' ' || c = '\t' || isBreak c

structure Cursor where
  rest : List Char
  index : Nat
  line : Nat
  column : Nat

namespace Cursor

def ofString (s : String) : Cursor :=
  ⟨s.toList, 0, 0, 0⟩

/-- The mark of byte order takes no column, and a carriage return before a line feed ends no
line. -/
def step (c : Cursor) : Cursor :=
  match c.rest with
  | [] => c
  | ch :: rest =>
    if isBreak ch && !(ch = '\r' && rest.head? = some '\n') then ⟨rest, c.index + 1, c.line + 1, 0⟩
    else if ch = '\ufeff' then ⟨rest, c.index + 1, c.line, c.column⟩
    else ⟨rest, c.index + 1, c.line, c.column + 1⟩

def advance : Nat → Cursor → Cursor
  | 0, c => c
  | n + 1, c => advance n c.step

/-- Whether a line of three hyphens or dots comes next, which separates documents. -/
def atSeparator (c : Cursor) : Bool :=
  match c.rest with
  | x :: y :: z :: rest =>
    (([x, y, z] == ['-', '-', '-']) || ([x, y, z] == ['.', '.', '.'])) && isGap rest.head?
  | _ => false

end Cursor

end ServiceBlueprint.Markup
