/-!
# Log Events

What a run leaves in the log: events with a level, a message and named fields.
An event that matters to an audit is marked, so that it can be routed apart.

## Main definitions

* `Log.Level`: How much an event matters.
* `Log.Event`: One event.
-/

namespace Promotion

namespace Log

/-- How much an event matters. -/
inductive Level where
  | error
  | warn
  | info
  | debug
  | trace
  deriving DecidableEq, Repr

namespace Level

/-- The name of the level. -/
def name : Level → String
  | error => "ERROR"
  | warn => "WARN"
  | info => "INFO"
  | debug => "DEBUG"
  | trace => "TRACE"

/-- The levels by how much they say: an error is 1, a trace is 5. -/
def verbosity : Level → Nat
  | error => 1
  | warn => 2
  | info => 3
  | debug => 4
  | trace => 5

end Level

/-- One event. -/
structure Event where
  level : Level
  /-- The event matters to an audit. -/
  audit : Bool
  message : String
  fields : List (String × String)
  deriving DecidableEq, Repr

namespace Event

/-- An event of the running program. -/
def plain (level : Level) (message : String) (fields : List (String × String)) : Event :=
  ⟨level, false, message, fields⟩

/-- An event for the audit, with the name it is found under. -/
def audited (level : Level) (name message : String) (fields : List (String × String)) : Event :=
  ⟨level, true, message, ("event", name) :: fields⟩

end Event

/-- A truth value as a field shows it. -/
def showBool (b : Bool) : String := if b then "true" else "false"

end Log

end Promotion
