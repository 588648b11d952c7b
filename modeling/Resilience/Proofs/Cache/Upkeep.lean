import Resilience.Proofs.Activity.Course
import Resilience.Proofs.Cache.Life

/-!
# A cache among tasks

An `Upkeep` is a swept cache with its clock and all that was reported, at the hands of any number of
tasks. It is finer than a `Life` : the sweeping task takes a tick in one turn and handles it in a
later one, since it has to wait for the store, and anything may happen in between. A turn that
handles no tick is a sweep as it is (`Upkeep.goOn_eq`).

`shutdownAndWait` is a request to stop after which nobody asks for the task any more. What it waits
for are turns of the task, and two of them are enough : `World.shutdownAndWait_eq` says that this is
all it does.
-/

namespace Resilience

open Telemetry (Event)

namespace Cache

variable {V : Type}

/-! ## What is answered and reported -/

/-- What the store found, if the reply is to a read. -/
def Reply.value? : Reply V → Option V
  | .found value? => value?
  | _ => none

/-- What is reported of a use, by the reply of the store. -/
def Use.report (policy : Policy) : Use V → Reply V → List Event
  | .set key _ _, .evicted key? =>
    [.opened Expiring.setSpan, .noted Expiring.setSpan "cache.key" key] ++
      Expiring.evictionEvents policy key? ++ [.closed Expiring.setSpan]
  | .get key, .found value? =>
    [.opened Expiring.getSpan, .noted Expiring.getSpan "cache.key" key,
      .noted Expiring.getSpan "cache.hit" (toString value?.isSome), .closed Expiring.getSpan]
  | .delete key, .removed wasStored =>
    [.opened Expiring.deleteSpan, .noted Expiring.deleteSpan "cache.key" key,
      .noted Expiring.deleteSpan "cache.removed" (toString wasStored),
      .closed Expiring.deleteSpan]
  | .clear, .count n =>
    [.opened Expiring.clearSpan, .debug "cache cleared" [⟨"removed", toString n⟩],
      .closed Expiring.clearSpan]
  | _, _ => []

namespace Expiring

variable (c : Expiring V) (now : Nat)

/-- Does what is asked. Only a read answers a value. -/
def serve : Use V → Option V × Expiring V × List Event
  | .set key value ttl? => (none, c.set key value ttl? now)
  | .get key => c.get key now
  | .delete key => (none, c.delete key)
  | .clear => (none, c.clear)

/-- What comes of a use, by what the store does with it. -/
def outcome (x : Use V) (done : Reply V × Store V) : Option V × Expiring V × List Event :=
  (done.1.value?, { c with store := done.2 }, x.report c.config.policy done.1)

/-- All that a use does is what the store does with it, and the report of that. -/
theorem serve_eq (x : Use V) : c.serve now x = c.outcome x (c.store.perform now x.request) := by
  cases x with
  | set key value ttl? => cases ttl? <;> rfl
  | get _ | delete _ | clear => rfl

/-- A stop that was requested goes before a tick. -/
theorem not_handlesTick_of_stopRequested {c : Expiring V} (h : c.stopRequested = true)
    (now : Nat) : c.handlesTick now = false := by
  unfold handlesTick
  split <;> simp [h]

end Expiring

/-! ## Deeds -/

/-- What is done to a cache by one task or another. -/
inductive Deed (V : Type) where
  | use (x : Use V)
  | passage (d : Nat)
  /-- The sweeping task goes on. -/
  | turn
  | shutdown
  /-- A request to stop by one who waits for the task from now on, in place of all others. -/
  | shutdownAndWait
deriving DecidableEq, Repr

namespace Deed

/-- Whether it is the sweeping task that goes on. -/
def isTurn : Deed V → Bool
  | turn => true
  | _ => false

/-- Whether the sweeping task is asked to stop. -/
def asksToStop : Deed V → Bool
  | shutdown | shutdownAndWait => true
  | _ => false

end Deed

/-- A swept cache with its clock. -/
structure Upkeep (V : Type) where
  now : Nat
  cache : Expiring V
  /-- Whether the sweeping task has taken a tick that it has not yet handled. -/
  handling : Bool := false
  /-- All that was reported so far. -/
  reported : List Event := []

namespace Upkeep

/-- A new cache. -/
def opened (config : Config) (start : Nat) : Upkeep V :=
  let (cache, reported) := Expiring.create config
  { now := start, cache, reported }

/-- Puts what was made of the cache in its place, and adds what was reported. -/
def put (u : Upkeep V) (made : Expiring V × List Event) : Upkeep V :=
  { u with cache := made.1, reported := u.reported ++ made.2 }

/-- Takes a tick : the next one is set, and this one is yet to be handled. -/
def take (u : Upkeep V) : Upkeep V :=
  { u with
    cache := { u.cache with sweeper := (u.cache.sweep u.now).1.sweeper }
    handling := true }

/-- A turn of the sweeping task. -/
def goOn (u : Upkeep V) : Upkeep V :=
  if u.handling then { u.put (u.cache.handle u.now) with handling := false }
  else if u.cache.handlesTick u.now then u.take
  else u.put (u.cache.sweep u.now)

/-- No one asks for the sweeping task any more. -/
def detach (u : Upkeep V) : Upkeep V := { u with cache := { u.cache with attached := false } }

/-- One deed. -/
def act (u : Upkeep V) : Deed V → Upkeep V
  | .use x => u.put (u.cache.serve u.now x).2
  | .passage d => { u with now := u.now + d }
  | .turn => u.goOn
  | .shutdown => u.put u.cache.shutdown
  | .shutdownAndWait => (u.put u.cache.shutdown).detach

/-- One deed after the other. -/
def run (u : Upkeep V) (deeds : List (Deed V)) : Upkeep V := deeds.foldl act u

theorem run_append (u : Upkeep V) (before after : List (Deed V)) :
    u.run (before ++ after) = (u.run before).run after :=
  List.foldl_append ..

theorem run_snoc (u : Upkeep V) (before : List (Deed V)) (d : Deed V) :
    u.run (before ++ [d]) = (u.run before).act d :=
  u.run_append before [d]

/-- What every deed keeps holds after any number of them. -/
theorem run_of_act {P : Upkeep V → Prop} (hact : ∀ u d, P u → P (u.act d)) {u : Upkeep V}
    (h : P u) (deeds : List (Deed V)) : P (u.run deeds) :=
  deeds.foldlRecOn act h fun u h d _ => hact u d h

/-- Where no tick is handled a turn is a sweep. -/
theorem goOn_eq {u : Upkeep V} (hhandling : u.handling = false)
    (htick : u.cache.handlesTick u.now = false) : u.goOn = u.put (u.cache.sweep u.now) := by
  simp [goOn, hhandling, htick]

/-- A turn changes nothing of the cache but the store and the task. -/
theorem cache_goOn (u : Upkeep V) : u.goOn.cache =
    { u.cache with store := u.goOn.cache.store, sweeper := u.goOn.cache.sweeper } := by
  unfold goOn
  split
  · rfl
  · split
    · rfl
    · exact u.cache.sweep_eq u.now

end Upkeep

/-! ## Rounds in the background -/

namespace Expiring

/-- So many sweeps at `now`, one after the other. -/
def sweeps (c : Expiring V) (now : Nat) : Nat → Expiring V × List Event
  | 0 => (c, [])
  | n + 1 =>
    let (c, events) := c.sweep now
    let (c, rest) := c.sweeps now n
    (c, events ++ rest)

/-- With nothing due, sweeps do nothing. -/
theorem sweeps_of_not_due {c : Expiring V} {now : Nat} (h : c.isDue now = false) (n : Nat) :
    c.sweeps now n = (c, []) := by
  induction n with
  | zero => rfl
  | succ n ih => simp only [sweeps, sweep_of_not_due h, ih, List.append_nil]

/-- Whether anyone asks for the task makes no difference to it. -/
theorem sweep_detached (c : Expiring V) (now : Nat) :
    ({ c with attached := false } : Expiring V).sweep now =
      ({ (c.sweep now).1 with attached := false }, (c.sweep now).2) := by
  cases hs : c.sweeper with
  | created => simp [sweep, hs, begin]
  | ticking s =>
    by_cases hstop : c.stopRequested = true
    · simp [sweep, hs, hstop]
    · by_cases hfired : Time.fired s now = true
      · cases halive : (Sweeper.rescheduled s c.config.sweepInterval now).isAlive <;>
          simp [sweep, hs, hstop, hfired, tick, halive, handle]
      · simp [sweep, hs, hstop, hfired]
  | stopped | failed => simp [sweep, hs]

/-- Nor does it make any to so many sweeps. -/
theorem sweeps_detached (c : Expiring V) (now n : Nat) :
    ({ c with attached := false } : Expiring V).sweeps now n =
      ({ (c.sweeps now n).1 with attached := false }, (c.sweeps now n).2) := by
  induction n generalizing c with
  | zero => rfl
  | succ n ih => simp only [sweeps, sweep_detached, ih]

/-- Once nothing is due, further sweeps make no difference. -/
theorem sweeps_eq_of_le {c : Expiring V} {now m n : Nat}
    (h : (c.sweeps now m).1.isDue now = false) (hle : m ≤ n) :
    c.sweeps now n = c.sweeps now m := by
  induction m generalizing c n with
  | zero => exact sweeps_of_not_due h n
  | succ m ih =>
    obtain ⟨n, rfl⟩ : ∃ k, n = k + 1 := ⟨n - 1, by omega⟩
    simp only [sweeps] at h ⊢
    rw [ih h (Nat.le_of_succ_le_succ hle)]

/-- A task that was asked to stop has nothing to do after two turns. -/
theorem not_due_of_stopRequested {c : Expiring V} (h : c.stopRequested = true) (now : Nat) :
    (c.sweeps now 2).1.isDue now = false := by
  simp only [sweeps]
  cases hs : c.sweeper with
  | created =>
    have hbegun : c.sweep now = c.begin now := by simp [sweep, hs]
    rw [hbegun]
    cases hnext : Time.after? now c.config.sweepInterval with
    | some next => simp [begin, hnext, sweep, h, isDue]
    | none => simp [begin, hnext, sweep, isDue]
  | ticking s => simp [sweep, hs, h, isDue]
  | stopped | failed => simp [sweep, hs, isDue]

end Expiring

/-- Once the sweeping task was asked to stop and handles no tick, its turns are sweeps. -/
theorem Upkeep.run_turns {u : Upkeep V} (hhandling : u.handling = false)
    (hstop : u.cache.stopRequested = true) (n : Nat) :
    u.run (List.replicate n .turn) = u.put (u.cache.sweeps u.now n) := by
  induction n generalizing u with
  | zero => simp [run, put, Expiring.sweeps]
  | succ n ih =>
    have htick := Expiring.not_handlesTick_of_stopRequested hstop u.now
    have hstop' : (u.cache.sweep u.now).1.stopRequested = true := by
      rwa [u.cache.sweep_eq]
    rw [List.replicate_succ]
    show u.goOn.run _ = _
    rw [goOn_eq hhandling htick, ih (u := u.put (u.cache.sweep u.now)) hhandling hstop']
    simp [put, Expiring.sweeps]

end Cache

namespace World

theorem onCache_of_some {w : World} {c : Cache.Expiring String} (hc : w.cache? = some c)
    (f : Cache.Expiring String → Nat → Cache.Expiring String × List Event) :
    w.onCache f = ({ w with cache? := some (f c w.now).1 }, (f c w.now).2) := by
  simp [onCache, hc]

/-- What is due of the sweep is done in rounds, and if they do not suffice all of them are. -/
theorem settleWithin_eq {w : World} {c : Cache.Expiring String} (hc : w.cache? = some c)
    (fuel : Nat) : ∃ n ≤ fuel, (settleWithin fuel w).1.cache? = some (c.sweeps w.now n).1 ∧
      (settleWithin fuel w).2 = (c.sweeps w.now n).2 ∧
      (n = fuel ∨ (c.sweeps w.now n).1.isDue w.now = false) := by
  induction fuel generalizing w c with
  | zero => exact ⟨0, Nat.le_refl 0, hc, rfl, .inl rfl⟩
  | succ fuel ih =>
    rw [settleWithin]
    cases hdue : w.isDue with
    | false =>
      have hcache : c.isDue w.now = false := by
        rw [isDue, hc, Bool.or_eq_false_iff] at hdue
        exact hdue.2
      exact ⟨0, Nat.zero_le _, hc, rfl, .inr hcache⟩
    | true =>
      have hround : w.background.1.cache? = some (c.sweep w.now).1 := by
        rw [cache?_background, hc, Option.map_some]
      have hevents : w.background.2 = (c.sweep w.now).2 :=
        congrArg Prod.snd (onCache_of_some (w := w.cancelDue) hc _)
      obtain ⟨n, hle, hleft, hrest, hend⟩ := ih hround
      rw [background_now] at hleft hrest hend
      refine ⟨n + 1, Nat.succ_le_succ hle, hleft, ?_, hend.imp_left (congrArg (· + 1))⟩
      simp only [if_true, hrest, hevents, Cache.Expiring.sweeps]

/-- What is due of the sweep once it was asked to stop is done in two turns. -/
theorem settle_of_stopRequested {w : World} {c : Cache.Expiring String} (hc : w.cache? = some c)
    (hstop : c.stopRequested = true) :
    w.settle.1.cache? = some (c.sweeps w.now 2).1 ∧ w.settle.2 = (c.sweeps w.now 2).2 := by
  obtain ⟨n, -, hleft, hevents, hend⟩ := settleWithin_eq hc rounds
  have hdue := Cache.Expiring.not_due_of_stopRequested hstop w.now
  -- Neither two rounds nor the ones that were made leave anything to do, so they do the same.
  have hsame : c.sweeps w.now n = c.sweeps w.now 2 := by
    rcases hend with rfl | hn
    · exact Cache.Expiring.sweeps_eq_of_le hdue (by decide)
    · rcases Nat.le_total n 2 with hle | hle
      · exact (Cache.Expiring.sweeps_eq_of_le hn hle).symm
      · exact Cache.Expiring.sweeps_eq_of_le hdue hle
  rw [← hsame]
  exact ⟨hleft, hevents⟩

/-- To shut a cache down and wait for the end is to ask its sweeping task to stop and to let it take
two turns. -/
theorem shutdownAndWait_eq {w : World} {c : Cache.Expiring String} (hc : w.cache? = some c) :
    let u := ({ now := w.now, cache := c } : Cache.Upkeep String).run
      [.shutdownAndWait, .turn, .turn]
    w.shutdownAndWait.1.cache? = some u.cache ∧ w.shutdownAndWait.2 = u.reported := by
  intro u
  have hstop : c.shutdown.1.stopRequested = true := by
    unfold Cache.Expiring.shutdown
    split
    · assumption
    · rfl
  have hu : u = (({ now := w.now, cache := c } : Cache.Upkeep String).put c.shutdown).detach.put
      (({ c.shutdown.1 with attached := false } : Cache.Expiring String).sweeps w.now 2) :=
    Cache.Upkeep.run_turns rfl hstop 2
  rw [hu, Cache.Expiring.sweeps_detached]
  have hasked := onCache_of_some hc fun c _ => c.shutdown
  obtain ⟨hleft, hevents⟩ := settle_of_stopRequested
    (w := { w with cache? := some c.shutdown.1 }) rfl hstop
  unfold shutdownAndWait
  rw [hasked]
  dsimp only
  rw [onCache_of_some hleft, hevents]
  exact ⟨rfl, rfl⟩

end World

end Resilience
