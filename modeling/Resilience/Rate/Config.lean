import Resilience.Document.Record
import Resilience.Time

/-!
# Rate limit settings

Whether operations are limited, how many tokens are earned a second and how many are held at most,
and how long a waiting operation sleeps between two tries. Setters raise zero to the least value
allowed.
-/

namespace Resilience.Rate

/-- What can be set of a limiter. Times are in nanoseconds. -/
structure Config where
  enabled : Bool := true
  requestsPerSecond : UInt32 := 10
  burst : UInt32 := 20
  pollInterval : Nat := 10 * Time.millisecond
deriving DecidableEq, Repr, Inhabited

namespace Config

/-- The configuration of no limit at all. -/
def disabled : Config := { enabled := false }

/-- The configuration with or without a limit. -/
def withEnabled (c : Config) (enabled : Bool) : Config := { c with enabled }

/-- Zero becomes one. -/
def withRequestsPerSecond (c : Config) (n : UInt32) : Config :=
  { c with requestsPerSecond := max n 1 }

/-- Zero becomes one. -/
def withBurst (c : Config) (n : UInt32) : Config := { c with burst := max n 1 }

/-- Zero becomes one millisecond. -/
def withPollInterval (c : Config) (interval : Nat) : Config :=
  { c with pollInterval := max interval Time.shortest }

/-- The configuration with every value put through its setter. -/
def coerced (c : Config) : Config :=
  ((c.withRequestsPerSecond c.requestsPerSecond).withBurst c.burst).withPollInterval c.pollInterval

/-! ## As a document -/

/-- The fields in the order of an array. -/
def fields : List (Document.Field Config) :=
  [ .of "enabled" (Document.asBool "a boolean") fun b c => { c with enabled := b },
    .of "requests_per_second" Document.asWord32 fun n c => { c with requestsPerSecond := n },
    .of "burst_size" Document.asWord32 fun n c => { c with burst := n },
    .of "poll_interval_ms" (Document.asMillis "u64") fun d c => { c with pollInterval := d } ]

/-- Reads a configuration as it is written. -/
def ofDocument : Document → Except Document.Refusal Config :=
  Document.asRecord "RateLimitConfig" fields {}

/-- The configuration as a document, with every field by its name. -/
def toDocument (c : Config) : Document :=
  .record
    [ ("enabled", .bool c.enabled),
      ("requests_per_second", .natural c.requestsPerSecond.toNat),
      ("burst_size", .natural c.burst.toNat),
      ("poll_interval_ms", .millis c.pollInterval) ]

end Config

end Resilience.Rate
