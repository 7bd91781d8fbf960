/-!
# Patterns on text

A pattern is built from character sets, anchors, groups, choices and repetitions, with
back-references, conditionals on groups, assertions that look ahead or behind, and atomic groups.
Flags are resolved while a pattern is read, so that every node carries what it depends on.
-/

namespace ServiceBlueprint.Pattern

inductive Category where
  | digit
  | space
  | word
  deriving DecidableEq, Repr

/-- Which characters count as the same letter. -/
inductive Fold where
  | exact
  | ascii
  | unicode
  deriving DecidableEq, Repr

/-- A member of a character set, by code point. -/
inductive SetItem where
  | single (c : Nat)
  | range (first last : Nat)
  | category (kind : Category) (negated ascii : Bool)
  deriving DecidableEq, Repr

inductive Anchor where
  | textStart
  | textEnd
  | lineStart
  | lineEnd
  /-- The end, or the place before a line feed that ends the text. -/
  | lastLineEnd
  | wordBoundary (ascii : Bool)
  | noWordBoundary (ascii : Bool)
  deriving DecidableEq, Repr

inductive Mode where
  | greedy
  | lazy
  /-- Takes as many rounds as it can and gives none back. -/
  | possessive
  deriving DecidableEq, Repr

/-- The least and the greatest number of characters a match can have. -/
structure Width where
  least : Nat
  most : Option Nat
  deriving DecidableEq, Repr, Inhabited

inductive Node where
  | set (negated : Bool) (items : List SetItem) (fold : Fold)
  | any (newline : Bool)
  | anchor (kind : Anchor)
  | sequence (nodes : List Node)
  | choice (nodes : List Node)
  | repeated (node : Node) (least : Nat) (most : Option Nat) (mode : Mode)
  | group (index : Option Nat) (node : Node)
  | backReference (index : Nat) (fold : Fold) (width : Width)
  | lookAhead (positive : Bool) (node : Node)
  | lookBehind (positive : Bool) (distance : Nat) (node : Node)
  | atomic (node : Node)
  | conditional (index : Nat) (yes no : Node)
  deriving Inhabited

def Width.add (a b : Width) : Width :=
  ⟨a.least + b.least, do return (← a.most) + (← b.most)⟩

def Width.join (a b : Width) : Width :=
  ⟨min a.least b.least, do return max (← a.most) (← b.most)⟩

def Width.zero : Width := ⟨0, some 0⟩

def Width.repeat (w : Width) (least : Nat) (most : Option Nat) : Width :=
  let upper :=
    match w.most, most with
    | some 0, _ => some 0
    | _, some 0 => some 0
    | some j, some m => some (j * m)
    | _, _ => none
  ⟨w.least * least, upper⟩

mutual

def Node.width : Node → Width
  | .set .. => ⟨1, some 1⟩
  | .any _ => ⟨1, some 1⟩
  | .anchor _ => .zero
  | .sequence nodes => sequenceWidth nodes
  | .choice nodes => choiceWidth nodes
  | .repeated node least most _ => node.width.repeat least most
  | .group _ node => node.width
  | .backReference _ _ w => w
  | .lookAhead .. => .zero
  | .lookBehind .. => .zero
  | .atomic node => node.width
  | .conditional _ yes no => yes.width.join no.width

def sequenceWidth : List Node → Width
  | [] => .zero
  | n :: ns => n.width.add (sequenceWidth ns)

def choiceWidth : List Node → Width
  | [] => .zero
  | [n] => n.width
  | n :: ns => n.width.join (choiceWidth ns)

end

end ServiceBlueprint.Pattern

namespace ServiceBlueprint

structure Pattern where
  root : Pattern.Node
  groupCount : Nat
  /-- Whether some part of the pattern depends on what a group has matched. -/
  usesGroups : Bool

/-- Why a text is no pattern. -/
inductive PatternError where
  | malformed
  /-- A count or a code point that is out of all range. -/
  | numberTooLarge
  /-- A count that is written with more digits than are read. -/
  | numberTooLong
  | conflictingFlags
  deriving DecidableEq, Repr

end ServiceBlueprint
