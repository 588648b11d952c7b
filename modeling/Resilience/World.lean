import Resilience.Cache.Expiring
import Resilience.Cancellation
import Resilience.Rate.Limiter
import Resilience.Settings.Basic

/-!
# What activities share

The `World` is what the activities of a service have in common : the clock, the tokens, the cache
and the limiter if they are enabled, the cancellations that are to come, and a record of the
instants at which operations were called.

Work in the background, the sweep and the cancellations to come, is done by `World.settle` as far as
it is due. Nothing of this moves the clock : only `World.jump` and `World.advance` do.
-/

namespace Resilience

open Telemetry (Event)

/-- What the activities of a service share. -/
structure World where
  now : Nat := 0
  tokens : Tokens := {}
  cache? : Option (Cache.Expiring String) := none
  limiter? : Option Rate.Limiter := none
  /-- Tokens to be called off, each with the instant. -/
  cancels : List (Nat × Token) := []
  /-- The instants at which operations were called, latest first. -/
  calls : List Nat := []

namespace World

/-! ## The components -/

/-- Adds a cache, if the configuration enables it. -/
def withCache (w : World) (c : Cache.Config) : World × List Event :=
  if c.enabled then
    let (cache, events) := Cache.Expiring.create c
    ({ w with cache? := some cache }, events)
  else
    (w, [.info "cache disabled by configuration"])

/-- Adds a limiter, if the configuration enables it. -/
def withLimiter (w : World) (c : Rate.Config) : World × List Event :=
  if c.enabled then
    let (limiter, events) := Rate.Limiter.create c w.now
    ({ w with limiter? := some limiter }, events)
  else
    (w, [.info "rate limiter disabled by configuration"])

/-- A world with the components that the settings enable. -/
def ofSettings (s : Settings) : World × List Event :=
  let (w, cacheEvents) := ({} : World).withCache s.cache
  let (w, limiterEvents) := w.withLimiter s.rateLimit
  (w, cacheEvents ++ limiterEvents)

/-- Does `f` to the cache. Without a cache nothing is done. -/
def onCache (w : World)
    (f : Cache.Expiring String → Nat → Cache.Expiring String × List Event) : World × List Event :=
  match w.cache? with
  | some c =>
    let (c, events) := f c w.now
    ({ w with cache? := some c }, events)
  | none => (w, [])

/-- Stores a value under `key`, for the default lifetime if none is given. -/
def store (w : World) (key value : String) (ttl? : Option Nat) : World × List Event :=
  w.onCache fun c now => c.set key value ttl? now

/-- Reads `key` from the cache. Without a cache every read misses and nothing is reported. -/
def read (w : World) (key : String) : Option String × World × List Event :=
  match w.cache? with
  | some c =>
    let (value, c, events) := c.get key w.now
    (value, { w with cache? := some c }, events)
  | none => (none, w, [])

/-- The cache's counters, all zero without a cache. -/
def statistics (w : World) : Cache.Statistics := (w.cache?.map (·.store.report)).getD {}

/-- How many entries the cache holds, none without a cache. -/
def size (w : World) : Nat := (w.cache?.map (·.store.size)).getD 0

/-- Takes a token, without a limiter none is needed. -/
def allow (w : World) : Bool × World :=
  match w.limiter? with
  | some l =>
    let (allowed, l) := l.allow w.now
    (allowed, { w with limiter? := some l })
  | none => (true, w)

/-- Fills the limiter's bucket. -/
def refill (w : World) : World × List Event :=
  match w.limiter? with
  | some l =>
    let (l, events) := l.reset w.now
    ({ w with limiter? := some l }, events)
  | none => (w, [])

/-- Tokens in the bucket as of its last refill, if there is one. -/
def available? (w : World) : Option Nat := w.limiter?.map (·.bucket.tokens)

/-- Records that an operation is called now. -/
def called (w : World) : World := { w with calls := w.now :: w.calls }

/-! ## The background -/

/-- Arranges for a token to be called off `d` from now. -/
def cancelAfter (w : World) (t : Token) (d : Nat) : World :=
  { w with cancels := w.cancels ++ [(Time.after w.now d, t)] }

/-- Calls off the tokens whose instant has come. -/
def cancelDue (w : World) : World :=
  let (due, rest) := w.cancels.partition fun c => Time.fired c.1 w.now
  { w with cancels := rest, tokens := due.foldl (fun ts c => ts.cancel c.2) w.tokens }

/-- Whether there is something to do in the background. -/
def isDue (w : World) : Bool :=
  w.cancels.any (fun c => Time.fired c.1 w.now) || w.cache?.any (·.isDue w.now)

/-- One round of the work in the background. -/
def background (w : World) : World × List Event := w.cancelDue.onCache (·.sweep ·)

/-- When there is next something to do in the background. -/
def nextTick? (w : World) : Option Nat :=
  w.cancels.foldl (fun t c => Time.earlier t (some (Time.tick c.1)))
    (w.cache?.bind Cache.Expiring.nextTick?)

/-- Rounds that suffice for all that can be due at one instant : a tick is at most five
milliseconds late without putting off those after it, and they are a millisecond apart. -/
def rounds : Nat := 16

/-- Does what is due in the background, in at most `fuel` rounds. -/
def settleWithin : Nat → World → World × List Event
  | 0, w => (w, [])
  | fuel + 1, w =>
    if w.isDue then
      let (w, events) := w.background
      let (w, rest) := settleWithin fuel w
      (w, events ++ rest)
    else
      (w, [])

/-- Does what is due in the background. -/
def settle (w : World) : World × List Event := settleWithin rounds w

/-- Moves the clock by `d` at once, whatever is due on the way. -/
def jump (w : World) (d : Nat) : World := { w with now := w.now + d }

/-- Moves the clock to `t`, unless it is there already. -/
def advance (w : World) (t : Nat) : World := { w with now := max w.now t }

/-- Shuts the cache down and waits for the end of its sweeping task. -/
def shutdownAndWait (w : World) : World × List Event :=
  let (w, request) := w.onCache fun c _ => c.shutdown
  let (w, stop) := w.settle
  let (w, _) := w.onCache fun c _ => ({ c with attached := false }, [])
  (w, request ++ stop)

/-! ## What leaves the clock alone -/

@[simp] theorem onCache_now (w : World)
    (f : Cache.Expiring String → Nat → Cache.Expiring String × List Event) :
    (w.onCache f).1.now = w.now := by
  unfold onCache
  split <;> rfl

@[simp] theorem store_now (w : World) (key value : String) (ttl? : Option Nat) :
    (w.store key value ttl?).1.now = w.now :=
  w.onCache_now _

@[simp] theorem read_now (w : World) (key : String) : (w.read key).2.1.now = w.now := by
  unfold read
  split <;> rfl

@[simp] theorem allow_now (w : World) : w.allow.2.now = w.now := by
  unfold allow
  split <;> rfl

@[simp] theorem background_now (w : World) : w.background.1.now = w.now :=
  w.cancelDue.onCache_now _

@[simp] theorem settle_now (w : World) : w.settle.1.now = w.now := by
  have within : ∀ (fuel : Nat) (w : World), (settleWithin fuel w).1.now = w.now := by
    intro fuel
    induction fuel with
    | zero => intro w; rfl
    | succ fuel ih =>
      intro w
      rw [settleWithin]
      split
      · rw [ih, background_now]
      · rfl
  exact within rounds w

end World

end Resilience
