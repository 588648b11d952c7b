import Resilience.Cache.Config
import Resilience.Cache.Store
import Resilience.Telemetry.Event

/-!
# The swept cache

An `Expiring` cache is a store together with the task that sweeps expired entries out of it at
regular intervals, until the cache is shut down. Every operation is reported as a span.

The sweeper's first tick comes one interval after the task begins. The tick after one scheduled for
`s` is scheduled for `s + interval`, or for one interval from now if the task comes to it more than
five milliseconds late. A stop that was requested goes before a tick that is due, and a task for
whose next tick the clock has no room ends before it handles the one that is due.
-/

namespace Resilience.Cache

open Telemetry (Event)

/-- How far the sweeping task has come. -/
inductive Sweeper where
  /-- Created, and not yet run. -/
  | created
  /-- Waiting for the tick scheduled for an instant. -/
  | ticking (next : Nat)
  | stopped
  /-- Ended because the clock does not reach its next tick. -/
  | failed
deriving DecidableEq, Repr, Inhabited

namespace Sweeper

/-- Whether the task still runs. -/
def isAlive : Sweeper → Bool
  | created | ticking _ => true
  | stopped | failed => false

/-- How late a tick may be without putting off those after it. -/
def tolerance : Nat := 5 * Time.millisecond

/-- The task after it came to a tick scheduled for `s` at `now`. A tick in time is followed by one
thirty years from now where the clock does not reach an interval from `s`. That horizon is taken to
be on the clock, as it is but for the last thirty years of it. -/
def rescheduled (s interval now : Nat) : Sweeper :=
  if s + tolerance < now then
    match Time.after? now interval with
    | some next => ticking next
    | none => failed
  else
    ticking ((Time.after? s interval).getD (now + Time.horizon))

end Sweeper

/-- A cache that is swept until it is shut down. -/
structure Expiring (V : Type) where
  store : Store V
  config : Config
  stopRequested : Bool := false
  sweeper : Sweeper := .created
  /-- Whether the sweeping task has not been waited for. -/
  attached : Bool := true

namespace Expiring

variable {V : Type}

/-- An empty cache, and the report of it. Values of the configuration are coerced ; whether it is
enabled makes no difference here. -/
def create (c : Config) : Expiring V × List Event :=
  let c := c.coerced
  ({ store := .empty c.maxSize c.defaultTtl c.policy, config := c },
    [.info "cache initialized"
      [⟨"max_size", toString c.maxSize⟩,
       ⟨"default_ttl_ms", toString (Time.toMillis c.defaultTtl)⟩,
       ⟨"sweep_interval_ms", toString (Time.toMillis c.sweepInterval)⟩,
       ⟨"eviction", c.policy.name⟩]])

/-! ## Operations -/

/-- The span of a write. -/
def setSpan : String := "cache.set"

/-- The span of a read. -/
def getSpan : String := "cache.get"

/-- The span of a removal. -/
def deleteSpan : String := "cache.delete"

/-- The span of the removal of all. -/
def clearSpan : String := "cache.clear"

/-- What is reported of a key given up. -/
def evictionEvents (policy : Policy) : Option String → List Event
  | some key =>
    [.debug "cache evicted entry" [⟨"key", key⟩, ⟨"policy", policy.name⟩],
     .noted setSpan "cache.evicted" key]
  | none => []

/-- Stores a value, for the default lifetime if none is given. -/
def set (c : Expiring V) (key : String) (value : V) (ttl? : Option Nat) (now : Nat) :
    Expiring V × List Event :=
  let (evicted, store) := match ttl? with
    | some ttl => c.store.setFor key value ttl now
    | none => c.store.set key value now
  ({ c with store },
    [.opened setSpan, .noted setSpan "cache.key" key] ++
      evictionEvents c.config.policy evicted ++ [.closed setSpan])

/-- Reads a live value. -/
def get (c : Expiring V) (key : String) (now : Nat) : Option V × Expiring V × List Event :=
  let (value, store) := c.store.get key now
  (value, { c with store },
    [.opened getSpan, .noted getSpan "cache.key" key,
     .noted getSpan "cache.hit" (toString value.isSome), .closed getSpan])

/-- Removes a key, and reports whether it was stored. -/
def delete (c : Expiring V) (key : String) : Expiring V × List Event :=
  let (removed, store) := c.store.delete key
  ({ c with store },
    [.opened deleteSpan, .noted deleteSpan "cache.key" key,
     .noted deleteSpan "cache.removed" (toString removed), .closed deleteSpan])

/-- Removes every entry, and reports how many there were. -/
def clear (c : Expiring V) : Expiring V × List Event :=
  let (removed, store) := c.store.clear
  ({ c with store },
    [.opened clearSpan, .debug "cache cleared" [⟨"removed", toString removed⟩],
     .closed clearSpan])

/-! ## The sweep -/

/-- Removes what has expired, and reports how much if there was anything. -/
def handle (c : Expiring V) (now : Nat) : Expiring V × List Event :=
  let (removed, store) := c.store.purge now
  ({ c with store },
    if removed = 0 then []
    else [.debug "cache sweep removed expired entries" [⟨"removed", toString removed⟩]])

/-- Comes to the tick scheduled for `s`. The next one is scheduled first, so that a task which fails
to do so ends with nothing removed. -/
def tick (c : Expiring V) (s now : Nat) : Expiring V × List Event :=
  let sweeper := Sweeper.rescheduled s c.config.sweepInterval now
  if sweeper.isAlive then ({ c with sweeper } : Expiring V).handle now else ({ c with sweeper }, [])

/-- Begins the sweeping task : the first tick is one interval from now. -/
def begin (c : Expiring V) (now : Nat) : Expiring V × List Event :=
  ({ c with sweeper := match Time.after? now c.config.sweepInterval with
      | some next => .ticking next
      | none => .failed },
    [.debug "cache sweep started"
      [⟨"interval_ms", toString (Time.toMillis c.config.sweepInterval)⟩]])

/-- Whether the sweeping task has something to do at `now`. -/
def isDue (c : Expiring V) (now : Nat) : Bool :=
  match c.sweeper with
  | .created => true
  | .ticking s => c.stopRequested || Time.fired s now
  | .stopped | .failed => false

/-- The sweeping task's turn : it begins, stops, comes to its tick or does nothing. -/
def sweep (c : Expiring V) (now : Nat) : Expiring V × List Event :=
  match c.sweeper with
  | .created => c.begin now
  | .ticking s =>
    if c.stopRequested then ({ c with sweeper := .stopped }, [.debug "cache sweep stopped"])
    else if Time.fired s now then c.tick s now
    else (c, [])
  | .stopped | .failed => (c, [])

/-- When the sweeping task next has something to do. -/
def nextTick? (c : Expiring V) : Option Nat :=
  match c.sweeper with
  | .ticking s => some (Time.tick s)
  | _ => none

/-! ## Shutting down -/

/-- Asks the sweeping task to stop. Only the first request is reported. -/
def shutdown (c : Expiring V) : Expiring V × List Event :=
  if c.stopRequested then (c, [])
  else ({ c with stopRequested := true }, [.info "cache shut down"])

/-- Whether the sweeping task runs and has not been waited for. -/
def isRunning (c : Expiring V) : Bool := c.attached && c.sweeper.isAlive

end Expiring

end Resilience.Cache
