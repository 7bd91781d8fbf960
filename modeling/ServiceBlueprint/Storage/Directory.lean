import ServiceBlueprint.Fault
import ServiceBlueprint.Storage.Path
import ServiceBlueprint.Text.Octets

/-!
# Reading stored files

A directory is a table of files, each known by the steps that lead to it; the steps on the way are
directories. Nothing is stored outside of it. A file is a sequence of octets, and its text is their
UTF-8 form with every line ended by a line feed.
-/

namespace ServiceBlueprint.Storage

structure File where
  steps : List String
  octets : List Nat

abbrev Directory := List File

/-- Where a walk along a path has come to. -/
inductive Location where
  | outside
  | inside (steps : List String)
  | file (octets : List Nat)

def maxNameLength : Nat := 255

def maxPathLength : Nat := 4095

namespace Directory

def file? (d : Directory) (steps : List String) : Option (List Nat) :=
  (d.find? (·.steps = steps)).map (·.octets)

def hasDirectory (d : Directory) (steps : List String) : Bool :=
  d.any fun f => steps.isPrefixOf f.steps

def step (d : Directory) (location : Location) (name : String) : Except ReadFailure Location :=
  match location with
  | .file _ => .error .notDirectory
  | .outside =>
    if name = ".." then .ok .outside
    else if name.utf8ByteSize > maxNameLength then .error .nameTooLong
    else .error .notFound
  | .inside steps =>
    if name = ".." then .ok (if steps = [] then .outside else .inside steps.dropLast)
    else if name.utf8ByteSize > maxNameLength then .error .nameTooLong
    else
      let there := steps ++ [name]
      match d.file? there with
      | some octets => .ok (.file octets)
      | none => if d.hasDirectory there then .ok (.inside there) else .error .notFound

def locate (d : Directory) (p : Path) : Except ReadFailure Location :=
  if p.text.utf8ByteSize > maxPathLength then .error .nameTooLong
  else p.steps.foldlM d.step (if p.root = .here then .inside [] else .outside)

def readOctets (d : Directory) (p : Path) : Except ReadFailure (List Nat) := do
  match ← d.locate p with
  | .file octets => return octets
  | _ => throw .isDirectory

end Directory

/-- A carriage return ends a line, alone or with the line feed behind it. -/
def normalBreaks : List Char → List Char
  | '\r' :: '\n' :: cs => '\n' :: normalBreaks cs
  | '\r' :: cs => '\n' :: normalBreaks cs
  | c :: cs => c :: normalBreaks cs
  | [] => []

/-- The text of a stored file. -/
def textOf (octets : List Nat) : Attempt String :=
  match Text.ofOctets? octets with
  | some s => .ok (String.ofList (normalBreaks s.toList))
  | none => .error .undecodable

end ServiceBlueprint.Storage
