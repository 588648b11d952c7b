import Resilience.Document.Record
import Resilience.Time

/-!
# Retry settings

How often a failed operation is tried again, and how long the waits between attempts are : the
first wait, the longest, the factor from one to the next and the share by which chance may lengthen
or shorten them. The longest wait is never below the first.
-/

namespace Resilience.Retry

/-- What can be set of retries. Times are in nanoseconds. -/
structure Config where
  maxRetries : UInt32 := 3
  initialBackoff : Nat := 100 * Time.millisecond
  maxBackoff : Nat := 10 * Time.second
  factor : Float := 2
  jitter : Float := 0.1
deriving BEq, Repr, Inhabited

namespace Config

/-- The configuration with another number of retries, all of which are allowed. -/
def withMaxRetries (c : Config) (n : UInt32) : Config := { c with maxRetries := n }

/-- Zero becomes one millisecond. Raises the longest wait with the first. -/
def withInitialBackoff (c : Config) (d : Nat) : Config :=
  let first := max d Time.shortest
  { c with initialBackoff := first, maxBackoff := max c.maxBackoff first }

/-- A wait below the first becomes the first. -/
def withMaxBackoff (c : Config) (d : Nat) : Config :=
  { c with maxBackoff := max d c.initialBackoff }

/-- A factor that is not finite and positive becomes one. -/
def withFactor (c : Config) (x : Float) : Config :=
  { c with factor := if x.isFinite && 0 < x then x else 1 }

/-- The nearest share between zero and one, zero for what is no number. -/
def withJitter (c : Config) (x : Float) : Config :=
  { c with jitter := if 0 ≤ x then if x ≤ 1 then x else 1 else 0 }

/-- The configuration with every value put through its setter, the first wait before the
longest. -/
def coerced (c : Config) : Config :=
  (((c.withInitialBackoff c.initialBackoff).withMaxBackoff c.maxBackoff).withFactor
    c.factor).withJitter c.jitter

/-- How often an operation is tried at most, counted up to the largest 32-bit number. -/
def maxAttempts (c : Config) : UInt32 :=
  if c.maxRetries = UInt32.ofNat Number.word32Limit then c.maxRetries else c.maxRetries + 1

/-! ## As a document -/

/-- The fields in the order of an array. -/
def fields : List (Document.Field Config) :=
  [ .of "max_retries" Document.asWord32 fun n c => { c with maxRetries := n },
    .of "initial_backoff_ms" (Document.asMillis "u64") fun d c => { c with initialBackoff := d },
    .of "max_backoff_ms" (Document.asMillis "u64") fun d c => { c with maxBackoff := d },
    .of "backoff_factor" (Document.asFloat "f64") fun x c => { c with factor := x },
    .of "jitter_factor" (Document.asFloat "f64") fun x c => { c with jitter := x } ]

/-- Reads a configuration as it is written. -/
def ofDocument : Document → Except Document.Refusal Config :=
  Document.asRecord "RetryConfig" fields {}

/-- The configuration as a document, with every field by its name. -/
def toDocument (c : Config) : Document :=
  .record
    [ ("max_retries", .natural c.maxRetries.toNat),
      ("initial_backoff_ms", .millis c.initialBackoff),
      ("max_backoff_ms", .millis c.maxBackoff),
      ("backoff_factor", .float c.factor),
      ("jitter_factor", .float c.jitter) ]

end Config

end Resilience.Retry
