import ServiceBlueprint.Value.Literal

/-!
# Why an operation gives no result

Configurations that cannot be loaded and rule documents that cannot be used are reported with a
cause and a message. The remaining faults come from values of an unexpected kind and are known by
their kind alone.
-/

namespace ServiceBlueprint

/-- Raw configuration that cannot be turned into a model. -/
inductive LoadError where
  | missingField (owner field : String)
  | invalidStatusCode (code : Value)
  | invalidRoleType (role raw : Value)
  | invalidTimestamp (raw : Value)

def LoadError.message : LoadError → String
  | .missingField owner field => owner ++ " missing required field: " ++ field
  | .invalidStatusCode code => "Invalid status code: " ++ code.display
  | .invalidRoleType role raw =>
    "Role '" ++ role.display ++ "' has invalid role type: " ++ raw.display
  | .invalidTimestamp raw => "Invalid timestamp: " ++ raw.literal

/-- What is wrong with one place of a rules document. -/
inductive ShapeProblem where
  | missing
  | notText
  | notUnicode
  | notList
  | notMap
  | notModel
  | notMember
  deriving DecidableEq, Repr

/-- A step on the way to a place in a document. -/
inductive PathStep where
  | key (name : String)
  | index (n : Int)
  deriving DecidableEq, Repr

structure ShapeError where
  problem : ShapeProblem
  path : List PathStep
  deriving DecidableEq, Repr

/-- Why a file cannot be read. -/
inductive ReadFailure where
  | notFound
  | notDirectory
  | isDirectory
  | nameTooLong
  deriving DecidableEq, Repr

/-- A rules document that cannot be used. -/
inductive RulesError where
  | unreadable (path : String) (reason : ReadFailure)
  | invalidMarkup
  | invalidShape (errors : List ShapeError)
  | nothingToMatch (rule : String)
  | nothingToRequire (rule : String)
  | unknownFieldType (rule type : String)

/-- Number and text of the failure, as the operating system gives them. -/
def ReadFailure.text : ReadFailure → String
  | .notFound => "[Errno 2] No such file or directory"
  | .notDirectory => "[Errno 20] Not a directory"
  | .isDirectory => "[Errno 21] Is a directory"
  | .nameTooLong => "[Errno 36] File name too long"

def RulesError.message : RulesError → String
  | .unreadable path reason =>
    "Cannot read rules config " ++ path ++ ": " ++ reason.text ++ ": " ++ Text.quoted path
  | .invalidMarkup => "Invalid YAML in rules config"
  | .invalidShape _ => "Invalid rules config"
  | .nothingToMatch rule => "Rule '" ++ rule ++ "' needs patterns or fieldTypes"
  | .nothingToRequire rule => "Rule '" ++ rule ++ "' needs fieldTypes and requiredValidation"
  | .unknownFieldType rule type => "Rule '" ++ rule ++ "' has unknown field type: " ++ type

inductive Fault where
  | load (error : LoadError)
  | rules (error : RulesError)
  | wrongType
  | missingAttribute
  | invalidValue
  | missingKey
  | missingIndex
  | outOfRange
  | undecodable
  | invalidPattern
  | invalidSchema
  | tooDeep

abbrev Attempt := Except Fault

end ServiceBlueprint
