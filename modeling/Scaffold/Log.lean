/-!
# Log entries

What a run tells about itself besides its result.
-/

namespace Scaffold

/-- How important a log entry is. -/
inductive LogLevel where
  | debug
  | info
  | warning
  deriving DecidableEq, Repr

/-- The name of a level. -/
def LogLevel.name : LogLevel → String
  | debug => "debug"
  | info => "info"
  | warning => "warning"

/-- A log entry. -/
structure LogEntry where
  level : LogLevel
  text : String
  deriving DecidableEq, Repr

/-- A result with the log entries on the way to it. -/
abbrev Logged (α : Type) := List LogEntry × α

end Scaffold
