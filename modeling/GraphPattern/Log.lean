import GraphPattern.Text.LetterCase
import GraphPattern.Traced

/-!
# The log

A line of the log has a writer, a level and a message. Lines are written
whatever the configured threshold; the threshold only decides which of them are
shown. A threshold is given as a whole number or as the name of a level. The
threshold zero stands for none of its own, and then the one for all programs
holds, which shows warnings and whatever is more severe.
-/

namespace GraphPattern

/-- The levels at which lines are written. -/
inductive LogLevel where
  /-- Details of how a source was built or what was delivered. -/
  | debug
  /-- The course of a run. -/
  | info
  /-- Faults that a run goes on after. -/
  | warning
  /-- Errors that end a run. -/
  | error
  deriving DecidableEq

namespace LogLevel

/-- The severity of a level. -/
def severity : LogLevel → Int
  | debug => 10
  | info => 20
  | warning => 30
  | error => 40

/-- The word for a level. -/
def name : LogLevel → String
  | debug => "DEBUG"
  | info => "INFO"
  | warning => "WARNING"
  | error => "ERROR"

end LogLevel

/-- A line of the log. -/
structure LogLine where
  /-- The part of the library that writes the line. -/
  writer : String
  /-- Its level. -/
  level : LogLevel
  /-- What it says. -/
  message : String

/-- A line as it is shown. -/
def LogLine.render (line : LogLine) : String :=
  "[" ++ line.writer ++ "] " ++ line.level.name ++ " " ++ line.message

/-- A computation that writes lines. -/
abbrev Logged (α : Type) := Traced LogLine α

/-- The severity from which on lines are shown. -/
structure LogThreshold where
  /-- The number that was configured, in the form in which it was given. -/
  configured : Value
  /-- What it amounts to. -/
  severity : Int

namespace LogThreshold

/-- The names of severities; some have two. -/
def named : Entries Int :=
  [("CRITICAL", 50), ("FATAL", 50), ("ERROR", 40), ("WARN", 30), ("WARNING", 30), ("INFO", 20),
    ("DEBUG", 10), ("NOTSET", 0)]

/-- The severity that holds where none is configured. -/
def fallback : Int := LogLevel.warning.severity

/-- The threshold that a value stands for: a whole number itself, and a name in whatever letters
its number. -/
def ofValue : Value → Except Error LogThreshold
  | .text name =>
    match Entries.get? named (Text.upper name) with
    | some severity => .ok ⟨.int severity, severity⟩
    | none => .error (.unknownLevel (Text.upper name))
  | value =>
    match value.integer? with
    | some severity => .ok ⟨value, severity⟩
    | none => .error (.notLevel value)

/-- Whether lines of a level are shown. -/
def shows (threshold : LogThreshold) (level : LogLevel) : Bool :=
  if threshold.severity = 0 then fallback ≤ level.severity
  else threshold.severity ≤ level.severity

end LogThreshold

end GraphPattern
