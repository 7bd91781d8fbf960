import ServiceBlueprint.Log.Level

/-!
# What components report while they work

An event has the name of the component that reports it, a level, a message and further entries
that stand beside the message. Events are computed apart from the results they go with.
-/

namespace ServiceBlueprint.Log

structure Event where
  logger : String
  level : Level
  message : String
  extra : List (String × Value)

def Event.plain (logger : String) (level : Level) (message : String) : Event :=
  ⟨logger, level, message, []⟩

end ServiceBlueprint.Log
