import ServiceBlueprint.Storage.Path
import ServiceBlueprint.Table
import ServiceBlueprint.Value.Access

/-!
# Settings

Settings are read from an environment of named texts. Once read they are kept until they are
dropped, whatever happens to the environment meanwhile; a failed reading keeps nothing.
-/

namespace ServiceBlueprint

abbrev Environment := Table String String

namespace Environment

def text (e : Environment) (name usual : String) : String :=
  (e.find? name).getD usual

/-- A name may not be empty or hold an equals sign, and no text may hold the null character. -/
def define (e : Environment) (name value : Value) : Attempt Environment :=
  match name, value with
  | .text name, .text value =>
    if name = "" ∨ name.toList.contains '=' ∨ (name ++ value).toList.contains '\x00' then
      .error .invalidValue
    else .ok (e.insert name value)
  | _, _ => .error .wrongType

end Environment

structure Settings where
  logLevel : String
  logFormat : String
  serviceType : String
  rulesPath : Option Storage.Path
  /-- How many gaps of a category a report shows; none means all. -/
  maxPerCategory : Option Int
  deriving DecidableEq, Repr

namespace Settings

def optionalPath (e : Environment) (name : String) : Option Storage.Path :=
  let raw := Text.trim (e.text name "")
  if raw = "" then none else some (.ofString raw)

def optionalInt (e : Environment) (name : String) : Attempt (Option Int) :=
  let raw := Text.trim (e.text name "")
  if raw = "" then .ok none
  else
    match Number.readInt? raw with
    | some n => .ok (some n)
    | none => .error .invalidValue

def ofEnvironment (e : Environment) : Attempt Settings := do
  return {
    logLevel := e.text "LOG_LEVEL" "INFO"
    logFormat := e.text "LOG_FORMAT" "text"
    serviceType := e.text "GAP_DEFAULT_SERVICE_TYPE" "general"
    rulesPath := optionalPath e "GAP_CUSTOM_RULES_PATH"
    maxPerCategory := ← optionalInt e "GAP_REPORT_MAX_PER_CATEGORY" }

end Settings

/-- An environment and the settings that were read from it, if they are kept. -/
structure SettingsStore where
  environment : Environment
  kept : Option Settings
  /-- How many times settings have been read and kept. -/
  generation : Nat

namespace SettingsStore

def ofEnvironment (e : Environment) : SettingsStore := ⟨e, none, 0⟩

/-- The settings, read anew if none are kept. -/
def get (s : SettingsStore) : Attempt (Settings × SettingsStore) :=
  match s.kept with
  | some settings => .ok (settings, s)
  | none => do
    let settings ← Settings.ofEnvironment s.environment
    return (settings, { s with kept := some settings, generation := s.generation + 1 })

def drop (s : SettingsStore) : SettingsStore :=
  { s with kept := none }

end SettingsStore

end ServiceBlueprint
