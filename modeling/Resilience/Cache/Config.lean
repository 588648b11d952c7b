import Resilience.Cache.Policy
import Resilience.Document.Record
import Resilience.Time

/-!
# Cache settings

Whether there is a cache, how long its entries live, how many it holds, how often the expired ones
are swept out and which key it gives up when it is full. Setters raise values below the least
allowed one instead of refusing them; a configuration read from a document holds values as they
were written until it is `coerced`.
-/

namespace Resilience.Cache

/-- What can be set of a cache. Times are in nanoseconds. -/
structure Config where
  enabled : Bool := true
  defaultTtl : Nat := 300 * Time.second
  maxSize : Nat := 1000
  sweepInterval : Nat := Time.second
  policy : Policy := .lru
deriving DecidableEq, Repr, Inhabited

namespace Config

/-- The configuration of no cache at all. -/
def disabled : Config := { enabled := false }

/-- The configuration with or without a cache. -/
def withEnabled (c : Config) (enabled : Bool) : Config := { c with enabled }

/-- Zero becomes one millisecond. -/
def withDefaultTtl (c : Config) (ttl : Nat) : Config :=
  { c with defaultTtl := max ttl Time.shortest }

/-- Zero becomes one. -/
def withMaxSize (c : Config) (size : Nat) : Config := { c with maxSize := max size 1 }

/-- Zero becomes one millisecond. -/
def withSweepInterval (c : Config) (interval : Nat) : Config :=
  { c with sweepInterval := max interval Time.shortest }

/-- The configuration with another policy, all of which are allowed. -/
def withPolicy (c : Config) (policy : Policy) : Config := { c with policy }

/-- The configuration with every value put through its setter. -/
def coerced (c : Config) : Config :=
  ((c.withDefaultTtl c.defaultTtl).withMaxSize c.maxSize).withSweepInterval c.sweepInterval

/-! ## As a document -/

/-- The fields in the order of an array. -/
def fields : List (Document.Field Config) :=
  [ .of "enabled" (Document.asBool "a boolean") fun b c => { c with enabled := b },
    .of "default_ttl_ms" (Document.asMillis "u64") fun d c => { c with defaultTtl := d },
    .of "max_size" (Document.asNatural "usize" Number.wordLimit) fun n c => { c with maxSize := n },
    .of "sweep_interval_ms" (Document.asMillis "u64") fun d c => { c with sweepInterval := d },
    .of "eviction" (Document.asChoice (Policy.all.map Policy.name) Policy.ofName?)
      fun p c => { c with policy := p } ]

/-- Reads a configuration as it is written. -/
def ofDocument : Document → Except Document.Refusal Config :=
  Document.asRecord "CacheConfig" fields {}

/-- The configuration as a document, with every field by its name. -/
def toDocument (c : Config) : Document :=
  .record
    [ ("enabled", .bool c.enabled),
      ("default_ttl_ms", .millis c.defaultTtl),
      ("max_size", .natural c.maxSize),
      ("sweep_interval_ms", .millis c.sweepInterval),
      ("eviction", .text c.policy.name) ]

end Config

end Resilience.Cache
