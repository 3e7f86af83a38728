/-!
# Log entries
-/

namespace PixelPanel

/-- How urgent a log entry is. -/
inductive Level
  | debug
  | info
  | warning
  | error
  deriving DecidableEq, Repr

/-- The part of the library that makes a log entry. -/
inductive Origin
  | link
  | panel
  | envelope
  | report
  deriving DecidableEq, Repr

/-- One line of the log. -/
structure LogEntry where
  level : Level
  origin : Origin
  message : String
  deriving DecidableEq, Repr

/-- The name of a level. -/
def Level.name : Level → String
  | .debug => "DEBUG"
  | .info => "INFO"
  | .warning => "WARNING"
  | .error => "ERROR"

/-- The name of an origin. -/
def Origin.name : Origin → String
  | .link => "src.connection"
  | .panel => "src.client"
  | .envelope => "src.envelope"
  | .report => "src.incoming"

/-- The levels that a log can be cut off at, each with its weight. -/
def thresholds : List (String × Nat) :=
  [("TRACE", 5), ("DEBUG", 10), ("INFO", 20), ("SUCCESS", 25), ("WARNING", 30), ("ERROR", 40),
    ("CRITICAL", 50)]

/-- The weight of a level. -/
def Level.weight : Level → Nat
  | .debug => 10
  | .info => 20
  | .warning => 30
  | .error => 40

/-- The width of a level in a log line. -/
def levelWidth : Nat := 7

/-- A log entry as a line with a time stamp. -/
def LogEntry.line (stamp : String) (entry : LogEntry) : String :=
  let padding := String.ofList (List.replicate (levelWidth - entry.level.name.length) ' ')
  s!"{stamp} | {entry.level.name}{padding} | {entry.origin.name} - {entry.message}"

end PixelPanel
