import Resilience.Rate.Bucket
import Resilience.Rate.Config
import Resilience.Telemetry.Event

/-!
# The limiter

A `Limiter` is a token bucket with the configuration it was made from.
-/

namespace Resilience.Rate

open Telemetry (Event Field)

/-- A token bucket, and the configuration that gave it its size and rate. -/
structure Limiter where
  bucket : Bucket
  config : Config
deriving DecidableEq, Repr, Inhabited

/-- The configured rate and burst, as they are reported. -/
def Config.limitFields (c : Config) : List Field :=
  [⟨"requests_per_second", toString c.requestsPerSecond.toNat⟩,
   ⟨"burst_size", toString c.burst.toNat⟩]

namespace Limiter

/-- A limiter with a full bucket, and the report of it. Values of the configuration are coerced ;
whether it is enabled makes no difference here. -/
def create (c : Config) (now : Nat) : Limiter × List Event :=
  let c := c.coerced
  ({ bucket := .full c.burst c.requestsPerSecond now, config := c },
    [.info "rate limiter initialized" c.limitFields])

/-- Takes a token if there is one. -/
def allow (l : Limiter) (now : Nat) : Bool × Limiter :=
  let (allowed, bucket) := l.bucket.take now
  (allowed, { l with bucket })

/-- Fills the bucket. -/
def reset (l : Limiter) (now : Nat) : Limiter × List Event :=
  ({ l with bucket := l.bucket.reset now }, [.debug "rate limiter reset"])

end Limiter

end Resilience.Rate
