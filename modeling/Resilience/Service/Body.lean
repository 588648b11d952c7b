import Resilience.Cache.Statistics
import Resilience.Document.Basic
import Resilience.Service.Error

/-!
# What responses say

The documents that stand in the bodies of responses.
-/

namespace Resilience

/-- The counters by their own names. -/
def Cache.Statistics.toDocument (s : Cache.Statistics) : Document :=
  .record
    [ ("hits", .natural s.hits),
      ("misses", .natural s.misses),
      ("evictions", .natural s.evictions),
      ("expirations", .natural s.expirations),
      ("entries", .natural s.entries) ]

namespace Service

/-- The value found under a key, and whether the cache held it. -/
structure Found where
  key : String
  value : String
  cached : Bool
deriving DecidableEq, Repr, Inhabited

/-- What was found as a document. -/
def Found.toDocument (f : Found) : Document :=
  .record [("key", .text f.key), ("value", .text f.value), ("cached", .bool f.cached)]

/-- The counters and the share of hits, as a client is told them. -/
def statisticsDocument (s : Cache.Statistics) : Document :=
  .record
    [ ("hits", .natural s.hits),
      ("misses", .natural s.misses),
      ("evictions", .natural s.evictions),
      ("expirations", .natural s.expirations),
      ("total_entries", .natural s.entries),
      ("hit_rate", .float s.hitRate) ]

/-- How the service is. -/
structure Health where
  /-- Whole seconds since the service was started. -/
  uptime : Nat
  cacheEnabled : Bool
  entries : Nat
  limiterEnabled : Bool
  /-- Tokens now in the bucket, if there is one. -/
  tokens? : Option Nat
deriving DecidableEq, Repr, Inhabited

/-- The report of a service's health at the time of day `timestamp`. -/
def Health.toDocument (h : Health) (timestamp : String) : Document :=
  .record
    [ ("status", .text "healthy"),
      ("timestamp", .text timestamp),
      ("uptime_secs", .natural h.uptime),
      ("cache", .record [("enabled", .bool h.cacheEnabled), ("entries", .natural h.entries)]),
      ("rate_limiter", .record
        (("enabled", .bool h.limiterEnabled) ::
          (h.tokens?.map fun n => ("available_tokens", Document.natural n)).toList)) ]

/-- What a client is told of a request that was not served. -/
def errorDocument (text : String) : Document := .record [("error", .text text)]

end Service

end Resilience
