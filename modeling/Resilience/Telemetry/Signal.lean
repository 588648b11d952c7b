import Resilience.Telemetry.Event

/-!
# Events for a subscriber

A subscriber of the global trace sees events as signals : log entries and attributes are
events with fields, and every span is a debug span of one name whose operation is a field. The
fields of a log entry are written into one, and an attribute is an event of the lowest level inside
its span.
-/

namespace Resilience.Telemetry

/-- What a subscriber is told. -/
inductive Signal where
  | event (level : Level) (inSpan : Bool) (fields : List Field)
  | span (name : String) (level : Level) (target : String) (fields : List Field)
  | record (fields : List Field)
  | close
deriving DecidableEq, Repr, Inhabited

/-- Where spans and entries come from, as a subscriber is told. -/
def target : String := "infrakit"

/-- What a subscriber is told of an event. -/
def Event.signal : Event → Signal
  | logged level message fields =>
    .event level false [⟨"message", message⟩, ⟨"fields", writeFields fields⟩]
  | opened span => .span (target ++ ".op") .debug target [⟨"op", span⟩]
  | noted _ key value => .event .trace true [⟨"attribute", key⟩, ⟨"value", value⟩]
  | failed _ text => .record [⟨"error", text⟩]
  | closed _ => .close

end Resilience.Telemetry
