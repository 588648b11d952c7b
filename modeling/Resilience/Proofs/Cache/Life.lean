import Resilience.Proofs.Cache.Sweeping
import Resilience.Proofs.Cache.Presence

/-!
# The life of a swept cache

A `Life` is a swept cache with its clock and the instants at which its sweeping task has handled a
tick. It is used, asked to stop, and time passes, up to the end of the clock ; the sweeping task
takes a turn now and then, on time or not. What every occurrence keeps holds along the life
(`Life.run_of_act`).

All that a use does is what the store does with it (`Expiring.use_eq`), and all that a turn can do
is listed in `Expiring.sweep_cases`.
-/

namespace Resilience.Cache

variable {V : Type}

/-! ## Uses and occurrences -/

/-- What is asked of a cache. A write without a lifetime is for the default one. -/
inductive Use (V : Type) where
  | set (key : String) (value : V) (ttl? : Option Nat)
  | get (key : String)
  | delete (key : String)
  | clear
deriving DecidableEq, Repr

/-- What is asked of the store. -/
def Use.request : Use V → Request V
  | set key value ttl? => .set key value ttl?
  | get key => .get key
  | delete key => .delete key
  | clear => .clear

/-- Does what is asked. -/
def Expiring.use (c : Expiring V) (now : Nat) : Use V → Expiring V
  | .set key value ttl? => (c.set key value ttl? now).1
  | .get key => (c.get key now).2.1
  | .delete key => (c.delete key).1
  | .clear => c.clear.1

/-- A use changes nothing of a cache but its store, and that as the store by itself does. -/
theorem Expiring.use_eq (c : Expiring V) (now : Nat) (u : Use V) :
    c.use now u = { c with store := (c.store.perform now u.request).2 } := by
  cases u with
  | set key value ttl? => cases ttl? <;> rfl
  | get _ | delete _ | clear => rfl

/-- What happens to a cache. -/
inductive Occurrence (V : Type) where
  | use (u : Use V)
  /-- The sweeping task takes its turn. -/
  | turn
  | shutdown
  | passage (d : Nat)
deriving DecidableEq, Repr

/-- A swept cache with its clock. -/
structure Life (V : Type) where
  now : Nat
  cache : Expiring V
  /-- The instants at which ticks were handled, in order. -/
  ticks : List Nat := []

namespace Life

/-- A new cache. -/
def opened (config : Config) (start : Nat) : Life V :=
  { now := start, cache := (Expiring.create config).1 }

/-- The clock does not pass its end. -/
def act (l : Life V) : Occurrence V → Life V
  | .use u => { l with cache := l.cache.use l.now u }
  | .turn => { l with
      cache := (l.cache.sweep l.now).1
      ticks := if l.cache.handlesTick l.now then l.ticks ++ [l.now] else l.ticks }
  | .shutdown => { l with cache := l.cache.shutdown.1 }
  | .passage d => if l.now + d < Time.limit then { l with now := l.now + d } else l

/-- The life after one occurrence after the other. -/
def run (l : Life V) (occurrences : List (Occurrence V)) : Life V := occurrences.foldl act l

theorem run_append (l : Life V) (before after : List (Occurrence V)) :
    l.run (before ++ after) = (l.run before).run after :=
  List.foldl_append ..

/-- What every occurrence keeps holds along the life. -/
theorem run_of_act {P : Life V → Prop} (hact : ∀ l o, P l → P (l.act o)) {l : Life V} (h : P l)
    (occurrences : List (Occurrence V)) : P (l.run occurrences) :=
  occurrences.foldlRecOn act h fun l h o _ => hact l o h

/-! ## What nothing changes -/

/-- The settings of the cache, and whether its task has been waited for. -/
theorem config_act (l : Life V) (o : Occurrence V) :
    (l.act o).cache.config = l.cache.config ∧ (l.act o).cache.attached = l.cache.attached := by
  cases o with
  | use u =>
    rw [act, Expiring.use_eq]
    exact ⟨rfl, rfl⟩
  | turn =>
    rw [act, l.cache.sweep_eq]
    exact ⟨rfl, rfl⟩
  | shutdown =>
    simp only [act, Expiring.shutdown]
    split <;> exact ⟨rfl, rfl⟩
  | passage d =>
    simp only [act]
    split <;> exact ⟨rfl, rfl⟩

/-- A request to stop is never taken back. -/
theorem stopRequested_act {l : Life V} {o : Occurrence V}
    (h : (l.act o).cache.stopRequested = false) : l.cache.stopRequested = false := by
  cases o with
  | use u => rwa [act, Expiring.use_eq] at h
  | turn => rwa [act, l.cache.sweep_eq] at h
  | shutdown =>
    simp only [act, Expiring.shutdown] at h
    split at h
    · exact h
    · cases h
  | passage d =>
    simp only [act] at h
    split at h <;> exact h

end Life

end Resilience.Cache
