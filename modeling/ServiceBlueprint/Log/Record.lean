import ServiceBlueprint.Json.Writer
import ServiceBlueprint.Log.Clock
import ServiceBlueprint.Log.Event
import ServiceBlueprint.Value.Assign
import ServiceBlueprint.Value.Template

/-!
# Records and their written forms

A record is an event at a time, its message a template with arguments. It is written as a line of
text or as a JSON object, into which further entries of the record are put as they are; an entry
takes the place of one that is there under its name. A record whose message or time cannot be
written has no written form.
-/

namespace ServiceBlueprint.Log

/-- An error that goes with a record, by its kind and text. -/
structure Raised where
  kind : String
  text : String

structure Record where
  logger : String
  level : Level
  message : Value
  arguments : List Value
  created : Value.Quantity
  extra : Table Value Value
  raised : Option Raised

def Record.ofEvent (created : Value.Quantity) (e : Event) : Record :=
  ⟨e.logger, e.level, .text e.message, [], created, e.extra.map fun x => (.text x.1, x.2), none⟩

/-! ### Further entries -/

/-- Names that a record has for itself. -/
def ownNames : List String :=
  ["name", "msg", "args", "levelname", "levelno", "pathname", "filename", "module", "exc_info",
    "exc_text", "stack_info", "lineno", "funcName", "created", "msecs", "relativeCreated", "thread",
    "threadName", "processName", "process"]

def refusedNames : List String := ["message", "asctime"] ++ ownNames

def isRefused (name : Value) : Bool :=
  refusedNames.any (Value.text · == name)

/-- The entries that are to go with a record: a map with no name that a record has for itself, or
nothing. A list is taken too, if it consists of positions in itself; they are no names, and the
record then has no JSON form. -/
def readExtra : Value → Attempt (Table Value Value)
  | .null => .ok []
  | .map es => es.mapM fun e => if isRefused e.1 then .error .missingKey else .ok e
  | v => do
    let names ← v.elements
    names.mapM fun name => do
      if isRefused name then throw .missingKey
      let i ← Value.position name names.length
      return (name, names[i]?.getD .null)

/-- Entries that are not written: private ones, and the name of the running task. -/
def isWritten (name : String) : Bool :=
  name ≠ "taskName" && name.toList.head? ≠ some '_'

/-! ### Parts of the written forms -/

/-- Errors of this library are known under the module that holds them. -/
def ownErrors : List String :=
  ["ServiceDesignerError", "ConfigurationLoadError", "RuleConfigError"]

def errorModule : String := "service_designer.core.errors."

/-- The kind of the error and its text, if it has one. The text of an error about a key is the
literal of the key. -/
def Raised.display (r : Raised) : String :=
  let kind := if ownErrors.contains r.kind then errorModule ++ r.kind else r.kind
  let text := if r.kind = "KeyError" then Text.quoted r.text else r.text
  if text = "" then kind else kind ++ ": " ++ text

namespace Record

/-- A single map with entries gives the arguments by key. -/
def templateArguments (r : Record) : Template.Arguments :=
  match r.arguments with
  | [.map (e :: es)] => .map (e :: es)
  | vs => .list vs

/-- A message without arguments is no template. -/
def text? (r : Record) : Option String :=
  if r.arguments.isEmpty then some r.message.display
  else Template.fill r.message.display r.templateArguments

/-! ### Written forms -/

def line? (r : Record) : Option String := do
  let text ← r.text?
  let time ← plainTime? r.created
  let level := Template.padText { left := true } 8 r.level.name.toList
  let line := time ++ " | " ++ String.ofList level ++ " | " ++ r.logger ++ " | " ++ text
  match r.raised with
  | none => return line
  | some e => return (if line.toList.getLast? = some '\n' then line else line ++ "\n") ++ e.display

def standardEntries (r : Record) (time text : String) : Table String Value :=
  [("timestamp", .text time), ("level", .text r.level.name), ("logger", .text r.logger),
    ("message", .text text)]

/-- The further entries under their names, if names are all they are under. -/
def namedExtra? (r : Record) : Option (Table String Value) :=
  r.extra.mapM fun e => e.1.text?.map (·, e.2)

/-- The entries of the JSON object, in order. -/
def entries? (r : Record) : Option (Table String Value) := do
  let time ← isoTime? r.created
  let text ← r.text?
  let added := ((← r.namedExtra?).filter fun e => isWritten e.1).foldl
    (fun t e => t.insert e.1 e.2) (r.standardEntries time text)
  match r.raised with
  | none => return added
  | some e => return added.insert "exception" (.text e.display)

def json? (r : Record) : Option String :=
  r.entries?.map fun es => Json.write (.map (es.map fun e => (.text e.1, e.2)))

end Record

end ServiceBlueprint.Log
