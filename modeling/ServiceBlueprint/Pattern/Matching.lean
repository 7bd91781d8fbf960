import ServiceBlueprint.Pattern.Reader
import ServiceBlueprint.Text.Blank
import ServiceBlueprint.Text.Case
import ServiceBlueprint.Text.Digit
import ServiceBlueprint.Text.Letter

/-!
# Matching patterns

A node started at a place of the text yields the places where it can end, the preferred ones first.
Places that differ in nothing a pattern can observe are listed once, which bounds the work. A round
of a repetition that consumes nothing is the last one.
-/

namespace ServiceBlueprint.Pattern

/-- Small letters that count as the same although neither is the small form of the other. -/
def letterVariants : List (List Nat) :=
  [[105, 305], [115, 383], [181, 956], [837, 953, 8126], [912, 8147], [944, 8163], [946, 976],
    [949, 1013], [952, 977], [954, 1008], [960, 982], [961, 1009], [962, 963], [966, 981],
    [1074, 7296], [1076, 7297], [1086, 7298], [1089, 7299], [1090, 7300, 7301], [1098, 7302],
    [1123, 7303], [7304, 42571], [7777, 7835], [64261, 64262]]

/-- The small letters that count as the given one. -/
def variantsOf (c : Char) : List Char :=
  match letterVariants.find? (·.contains c.toNat) with
  | some ns => ns.map Char.ofNat
  | none => [c]

/-- The code points that a character stands for under a folding. -/
def foldings (fold : Fold) (c : Char) : List Nat :=
  match fold with
  | .exact => [c.toNat]
  | .ascii => [c.toNat, c.toLower.toNat, c.toUpper.toNat]
  | .unicode => ((variantsOf (Text.lowerChar c)).flatMap Text.withLower).map (·.toNat)

def isWord (ascii : Bool) (c : Char) : Bool :=
  if ascii then c.isAlphanum || c = '_' else Text.isWordChar c

def Category.holds (ascii : Bool) (c : Char) : Category → Bool
  | .digit => if ascii then c.isDigit else Text.isDecimalDigit c
  | .space => if ascii then isLayout c else Text.isBlank c
  | .word => isWord ascii c

def SetItem.holds (codes : List Nat) (c : Char) : SetItem → Bool
  | .single n => codes.contains n
  | .range first last => codes.any fun n => first ≤ n && n ≤ last
  | .category kind negated ascii => kind.holds ascii c != negated

/-- Whether a character belongs to a set. -/
def inSet (negated : Bool) (items : List SetItem) (fold : Fold) (c : Char) : Bool :=
  let codes := foldings fold c
  items.any (·.holds codes c) != negated

structure Place where
  position : Nat
  /-- What each group has matched last, where that matters. -/
  groups : List (Option (Nat × Nat))
  deriving DecidableEq, Repr

abbrev Subject := Array Char

def wordAt (s : Subject) (ascii : Bool) (i : Nat) : Bool :=
  (s[i]?.map (isWord ascii)).getD false

/-- Whether exactly one side of a position is inside a word; an empty text has no such place and no
other either. -/
def boundaryAt? (s : Subject) (ascii : Bool) (i : Nat) : Option Bool :=
  if s.isEmpty then none
  else
    let before := if i = 0 then false else wordAt s ascii (i - 1)
    some (before != wordAt s ascii i)

def Anchor.holds (s : Subject) (i : Nat) : Anchor → Bool
  | .textStart => i = 0
  | .textEnd => i = s.size
  | .lineStart => i = 0 || s[i - 1]? = some '\n'
  | .lineEnd => i = s.size || s[i]? = some '\n'
  | .lastLineEnd => i = s.size || (i + 1 = s.size && s[i]? = some '\n')
  | .wordBoundary ascii => boundaryAt? s ascii i = some true
  | .noWordBoundary ascii => boundaryAt? s ascii i = some false

def addPlace (ps : List Place) (p : Place) : List Place :=
  if ps.contains p then ps else ps ++ [p]

def distinct (ps : List Place) : List Place :=
  ps.foldl addPlace []

/-- The places where exactly `count` rounds can end. -/
def rounds (body : Place → List Place) : (count : Nat) → List Place → List Place
  | 0, ps => ps
  | count + 1, ps =>
    let qs := distinct (ps.flatMap body)
    if qs = ps then ps else rounds body count qs

/-- Where a repetition has been so far: the places from which a further round was tried, with the
number of rounds left, and the ends that were found. -/
structure Walk where
  tried : List (Place × Option Nat)
  ends : List Place

def Walk.stopAt (w : Walk) (p : Place) : Walk :=
  { w with ends := addPlace w.ends p }

/-- Tries further rounds from a place. `last` is where the round that led here began. -/
def walk (body : Place → List Place) (eager : Bool) :
    (depth : Nat) → (left : Option Nat) → (last : Option Nat) → Place → Walk → Walk
  | 0, _, _, p, w => w.stopAt p
  | depth + 1, left, last, p, w =>
    let w := if eager then w else w.stopAt p
    let w :=
      if left = some 0 || last = some p.position || w.tried.contains (p, left) then w
      else
        (body p).foldl
          (fun w q => walk body eager depth (left.map (· - 1)) (some p.position) q w)
          { w with tried := (p, left) :: w.tried }
    if eager then w.stopAt p else w

/-- Takes the preferred end of each round, as long as there is one. -/
def press (body : Place → List Place) : (depth : Nat) → (left : Option Nat) → Place → Place
  | 0, _, p => p
  | depth + 1, left, p =>
    if left = some 0 then p
    else
      match body p with
      | [] => p
      | q :: _ => if q.position = p.position then q else press body depth (left.map (· - 1)) q

/-- Mandatory rounds that each take the preferred end. -/
def pressExactly (body : Place → List Place) : (count : Nat) → Place → Option Place
  | 0, p => some p
  | count + 1, p =>
    match body p with
    | [] => none
    | q :: _ => if q = p then some p else pressExactly body count q

def iterate (body : Place → List Place) (size least : Nat) (most : Option Nat) (mode : Mode)
    (p : Place) : List Place :=
  let left := most.map (· - least)
  match mode with
  | .possessive =>
    match pressExactly body least p with
    | none => []
    | some q => [press body (size + 2) left q]
  | mode =>
    let start : Walk := ⟨[], []⟩
    ((rounds body least [p]).foldl
      (fun w q => walk body (mode = .greedy) (size + 2) left none q w) start).ends

/-- Whether the text at a position repeats the characters from `start` to before `stop`. -/
def repeatsAt (s : Subject) (fold : Fold) (start stop position : Nat) : Bool :=
  (List.range (stop - start)).all fun k =>
    match s[start + k]?, s[position + k]? with
    | some a, some b =>
      match fold with
      | .exact => a = b
      | .ascii => a.toLower = b.toLower
      | .unicode => Text.lowerChar a = Text.lowerChar b
    | _, _ => false

mutual

def Node.ends (s : Subject) (tracking : Bool) : Node → Place → List Place
  | .set negated items fold, p =>
    match s[p.position]? with
    | some c => if inSet negated items fold c then [{ p with position := p.position + 1 }] else []
    | none => []
  | .any newline, p =>
    match s[p.position]? with
    | some c => if newline || c ≠ '\n' then [{ p with position := p.position + 1 }] else []
    | none => []
  | .anchor kind, p => if kind.holds s p.position then [p] else []
  | .sequence nodes, p => sequenceEnds s tracking nodes [p]
  | .choice nodes, p => distinct (choiceEnds s tracking nodes p)
  | .repeated node least most mode, p =>
    iterate (node.ends s tracking) s.size least most mode p
  | .group index node, p =>
    match index with
    | none => node.ends s tracking p
    | some i =>
      let qs := node.ends s tracking p
      if tracking then
        qs.map fun q => { q with groups := q.groups.set (i - 1) (some (p.position, q.position)) }
      else qs
  | .backReference i fold _, p =>
    match p.groups[i - 1]? with
    | some (some (start, stop)) =>
      if repeatsAt s fold start stop p.position then
        [{ p with position := p.position + (stop - start) }]
      else []
    | _ => []
  | .lookAhead positive node, p =>
    match node.ends s tracking p with
    | [] => if positive then [] else [p]
    | q :: _ => if positive then [{ p with groups := q.groups }] else []
  | .lookBehind positive distance node, p =>
    if p.position < distance then if positive then [] else [p]
    else
      match node.ends s tracking { p with position := p.position - distance } with
      | [] => if positive then [] else [p]
      | q :: _ => if positive then [{ p with groups := q.groups }] else []
  | .atomic node, p => (node.ends s tracking p).take 1
  | .conditional i yes no, p =>
    match p.groups[i - 1]? with
    | some (some _) => yes.ends s tracking p
    | _ => no.ends s tracking p

def sequenceEnds (s : Subject) (tracking : Bool) : List Node → List Place → List Place
  | [], ps => ps
  | n :: ns, ps => sequenceEnds s tracking ns (distinct (ps.flatMap (n.ends s tracking)))

def choiceEnds (s : Subject) (tracking : Bool) : List Node → Place → List Place
  | [], _ => []
  | n :: ns, p => n.ends s tracking p ++ choiceEnds s tracking ns p

end

end ServiceBlueprint.Pattern

namespace ServiceBlueprint.Pattern

def matchesAt (p : Pattern) (s : Subject) (start : Nat) : Bool :=
  let groups := if p.usesGroups then List.replicate p.groupCount none else []
  !(p.root.ends s p.usesGroups ⟨start, groups⟩).isEmpty

/-- Whether the pattern matches at the start of a text. -/
def matchesStart (p : Pattern) (text : String) : Bool :=
  p.matchesAt text.toList.toArray 0

/-- Whether the pattern matches somewhere in a text. -/
def foundIn (p : Pattern) (text : String) : Bool :=
  let s := text.toList.toArray
  (List.range (s.size + 1)).any (p.matchesAt s)

end ServiceBlueprint.Pattern
