import ServiceBlueprint.Fault
import ServiceBlueprint.Text.Case

/-!
# Levels

A level is a number; the usual ones have names. A level can be asked for by a word, in any letter
case: a word that means nothing stands for the level of information, but for two words that are
taken by other things and refused.
-/

namespace ServiceBlueprint.Log

abbrev Level := Int

namespace Level

def unset : Level := 0
def debug : Level := 10
def info : Level := 20
def warning : Level := 30
def error : Level := 40
def critical : Level := 50

def names : List (Level × String) :=
  [(critical, "CRITICAL"), (error, "ERROR"), (warning, "WARNING"), (info, "INFO"),
    (debug, "DEBUG"), (unset, "NOTSET")]

def name (l : Level) : String :=
  match names.find? (·.1 = l) with
  | some (_, s) => s
  | none => "Level " ++ toString l

def words : List (String × Level) :=
  names.map (fun e => (e.2, e.1)) ++ [("FATAL", critical), ("WARN", warning)]

def ofWord (word : String) : Attempt Level :=
  let word := Text.upper word
  if word = "BASIC_FORMAT" then .error .invalidValue
  else if word = "_STYLES" then .error .wrongType
  else .ok (((words.find? (·.1 = word)).map (·.2)).getD info)

end Level

end ServiceBlueprint.Log
