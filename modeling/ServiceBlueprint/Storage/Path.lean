/-!
# Paths

A path is a root, which is empty for a path from the working directory, and the steps from it.
Empty steps and steps to the same place are dropped when a path is read; steps upward are kept,
because where they lead depends on what is stored.
-/

namespace ServiceBlueprint.Storage

inductive Root where
  | here
  | top
  /-- Two slashes, and not more, in front. -/
  | special
  deriving DecidableEq, Repr

structure Path where
  root : Root
  steps : List String
  deriving DecidableEq, Repr

def Root.text : Root → String
  | .here => ""
  | .top => "/"
  | .special => "//"

namespace Path

def splitSteps (cs : List Char) : List String :=
  ((cs.splitOnP (· == '/')).map String.ofList).filter fun s => s ≠ "" && s ≠ "."

def ofString (s : String) : Path :=
  let cs := s.toList
  let root : Root :=
    match (cs.takeWhile (· = '/')).length with
    | 0 => .here
    | 2 => .special
    | _ => .top
  ⟨root, splitSteps cs⟩

/-- The empty path is written as a dot. -/
def text (p : Path) : String :=
  if p.root = .here ∧ p.steps = [] then "." else p.root.text ++ "/".intercalate p.steps

end Path

end ServiceBlueprint.Storage
