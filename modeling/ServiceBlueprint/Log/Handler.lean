import ServiceBlueprint.Log.Record
import ServiceBlueprint.Settings

/-!
# Handlers and loggers

Records reach the handlers of the root logger if they are of its level at least. A host program may
have handlers of its own there; configuring puts one of this library behind them, in the place of
any that it put there before. Loggers below a logger with a level of its own keep to that level.
-/

namespace ServiceBlueprint.Log

inductive Format where
  | text
  | json
  deriving DecidableEq, Repr

namespace Format

def ofWord (word : String) : Format :=
  if Text.lower word = "json" then .json else .text

def write? (f : Format) (r : Record) : Option String :=
  match f with
  | .text => r.line?
  | .json => r.json?

end Format

inductive Handler where
  /-- A handler of the host program, known by its number. -/
  | host (id : Nat)
  | own (format : Format)
  deriving DecidableEq, Repr

namespace Handler

def isOwn : Handler → Bool
  | .own _ => true
  | .host _ => false

end Handler

structure Logging where
  settings : SettingsStore
  level : Level
  handlers : List Handler
  /-- The level of the logger of the schema checker, whose messages are many. -/
  checkerLevel : Level

namespace Logging

def ofEnvironment (e : Environment) : Logging :=
  ⟨.ofEnvironment e, .warning, [], .unset⟩

/-! ### Handlers of the host -/

def addHost (l : Logging) (id : Nat) : Logging :=
  { l with handlers := addUnlessThere l.handlers (.host id) }

def removeHost (l : Logging) (id : Nat) : Logging :=
  { l with handlers := l.handlers.filter (· ≠ .host id) }

/-! ### Configuring -/

abbrev Configure := ExceptT Fault (StateM Logging)

def attempt {α : Type} : Attempt α → Configure α
  | .ok a => return a
  | .error f => throw f

def currentSettings : Configure Settings := do
  let l ← get
  let (settings, store) ← attempt l.settings.get
  set { l with settings := store }
  return settings

/-- An argument that is given, or the text from the settings. -/
def orSetting (v : Value) (usual : String) : Value :=
  if v.truthy then v else .text usual

def textOf : Value → Attempt String
  | .text s => .ok s
  | _ => .error .missingAttribute

/-- Installs the handler of this library. The level is settled before any handler changes. -/
def configure (level format : Value) : Configure Format := do
  let settings ← currentSettings
  let word ← attempt (textOf (orSetting level settings.logLevel))
  let level ← attempt (Level.ofWord word)
  modify fun l => { l with level := level, handlers := l.handlers.filter (!·.isOwn) }
  let format := Format.ofWord (← attempt (textOf (orSetting format settings.logFormat)))
  modify fun l =>
    { l with handlers := l.handlers ++ [.own format], checkerLevel := .warning }
  return format

/-! ### Writing -/

def checkerName : String := "jsonschema"

/-- Whether a logger is another one or below it. -/
def isAtOrBelow (name logger : String) : Bool :=
  logger = name || (name ++ ".").toList.isPrefixOf logger.toList

/-- The level of the nearest logger upward that has one. -/
def effectiveLevel (l : Logging) (logger : String) : Level :=
  if l.checkerLevel ≠ .unset && isAtOrBelow checkerName logger then l.checkerLevel else l.level

/-- Levels from zero down are never enabled. -/
def isEnabled (l : Logging) (logger : String) (level : Level) : Bool :=
  0 < level && l.effectiveLevel logger ≤ level

/-- What the handlers of this library write for a record: a line each, if it can be written. -/
def emit (l : Logging) (r : Record) : String :=
  if l.isEnabled r.logger r.level then
    String.join (l.handlers.map fun h =>
      match h with
      | .own f => ((f.write? r).map (· ++ "\n")).getD ""
      | .host _ => "")
  else ""

def rootName : String := "root"

/-- The name of the logger that is asked for; without a name it is the root. -/
def loggerName (v : Value) : Attempt String :=
  if !v.truthy then .ok rootName
  else
    match v with
    | .text s => .ok s
    | _ => .error .wrongType

/-- A request to write a record, as it is given. -/
structure Request where
  logger : Value
  level : Value
  message : Value
  arguments : List Value
  extra : Value
  raised : Option Raised

/-- What is written for a request. Entries are looked at only if the record is written. -/
def log (l : Logging) (created : Value.Quantity) (q : Request) : Attempt String := do
  let logger ← loggerName q.logger
  let level ← match q.level with
    | .int n => pure n
    | .bool b => pure (if b then 1 else 0)
    | _ => throw .wrongType
  if l.isEnabled logger level then
    let extra ← readExtra q.extra
    return l.emit ⟨logger, level, q.message, q.arguments, created, extra, q.raised⟩
  else return ""

end Logging

end ServiceBlueprint.Log
