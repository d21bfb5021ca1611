/-!
# Log events

What a step of the library has to say goes into a log, as events in the order in which they
happen.  The values of an event's fields are kept as texts.

The events model those that go to `tracing`.
-/

namespace Parley

namespace Log

/-- How important an event is. -/
inductive Level where
  /-- Something went wrong. -/
  | error
  /-- Something may be wrong. -/
  | warn
  /-- Something that helps to follow a run. -/
  | debug
  /-- Every detail. -/
  | trace
  deriving DecidableEq

/-- The name of a level. -/
def Level.name : Level → String
  | .error => "ERROR"
  | .warn => "WARN"
  | .debug => "DEBUG"
  | .trace => "TRACE"

/-- One event. -/
structure Event where
  /-- How important the event is. -/
  level : Level
  /-- What happened; a failure says it in its field `error` only. -/
  message : Option String
  /-- What it happened to. -/
  fields : List (String × String)
  deriving DecidableEq

/-- The event of a failure. -/
def Event.failure (message : String) : Event := ⟨.error, none, [("error", message)]⟩

end Log

end Parley
