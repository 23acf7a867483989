/-!
# Log entries

What the program reports beside its answers: warnings and errors.
-/

namespace MeshOnboard

/-- How grave a log entry is. -/
inductive LogLevel where
  | warning
  | error
  deriving DecidableEq

/-- A line of the log. -/
structure LogEntry where
  level : LogLevel
  text : String
  deriving DecidableEq

namespace LogEntry

/-- The word a level is written as. -/
def levelText : LogLevel → String
  | .warning => "WARN"
  | .error => "ERROR"

/-- The written form of an entry. -/
def line (e : LogEntry) : String := s!"{levelText e.level} {e.text}"

/-- The warning with the given text. -/
def warning (text : String) : LogEntry := ⟨.warning, text⟩

/-- The error with the given text. -/
def error (text : String) : LogEntry := ⟨.error, text⟩

/-- Whether errors are reported at a level of reporting: at every level but the one that turns
reporting off, which has a name and a number. -/
def showsErrors (reporting : String) : Bool :=
  reporting.toLower ∉ ["off", "0"]

end LogEntry

end MeshOnboard
