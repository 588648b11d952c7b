/-!
# What components report

Components report what they do as events : log entries with a level, a message and named fields,
and spans that are opened, given attributes and perhaps a failure, and closed. A component's
answers never depend on what becomes of its events.
-/

namespace Resilience.Telemetry

/-- How serious a log entry is. -/
inductive Level where
  | trace
  | debug
  | info
  | warn
  | error
deriving DecidableEq, Repr, Inhabited

/-- A named value in a log entry. -/
structure Field where
  name : String
  value : String
deriving DecidableEq, Repr, Inhabited

/-- A field as `name=value`. -/
def Field.write (f : Field) : String := f.name ++ "=" ++ f.value

/-- The fields of an entry with spaces between them. -/
def writeFields (fields : List Field) : String := " ".intercalate (fields.map Field.write)

/-- What is reported. -/
inductive Event where
  | logged (level : Level) (message : String) (fields : List Field)
  | opened (span : String)
  | noted (span key value : String)
  | failed (span text : String)
  | closed (span : String)
deriving DecidableEq, Repr, Inhabited

namespace Event

/-- A log entry for those who look for faults. -/
def debug (message : String) (fields : List Field := []) : Event := logged .debug message fields

/-- A log entry on the ordinary course of things. -/
def info (message : String) (fields : List Field := []) : Event := logged .info message fields

/-- A log entry on what may need attention. -/
def warn (message : String) (fields : List Field := []) : Event := logged .warn message fields

/-- A log entry on what went wrong. -/
def error (message : String) (fields : List Field := []) : Event := logged .error message fields

end Event

end Resilience.Telemetry
