import Resilience.Cache.Store

/-!
# A store in use

A `Usage` is a store with its clock and the calls made of it so far, each with its instant, its
request and its reply. A `Step` lets time pass and then makes a request, so that the clock never
goes back. What every step preserves holds after any number of them (`Usage.run_of_step`).
-/

namespace Resilience.Cache

/-- What is asked of a store. A write without a lifetime is for the default one. -/
inductive Request (V : Type) where
  | set (key : String) (value : V) (ttl? : Option Nat)
  | get (key : String)
  | containsLive (key : String)
  | delete (key : String)
  | clear
  | purge
deriving DecidableEq, Repr

/-- What a store answers. -/
inductive Reply (V : Type) where
  /-- To a write : the key given up for it. -/
  | evicted (key? : Option String)
  /-- To a read. -/
  | found (value? : Option V)
  /-- To `containsLive`. -/
  | live (isLive : Bool)
  /-- To a deletion : whether the key was stored. -/
  | removed (wasStored : Bool)
  /-- To `clear` and `purge` : how many entries were removed. -/
  | count (n : Nat)
deriving DecidableEq, Repr

/-- A request with the instant at which it was made and the answer to it. -/
structure Call (V : Type) where
  time : Nat
  request : Request V
  reply : Reply V
deriving DecidableEq, Repr

/-- A request made some time after the one before it. -/
structure Step (V : Type) where
  wait : Nat
  request : Request V
deriving DecidableEq, Repr

variable {V : Type}

/-- Does what is asked. -/
def Store.perform (s : Store V) (now : Nat) : Request V → Reply V × Store V
  | .set key value none => (s.set key value now).map .evicted id
  | .set key value (some ttl) => (s.setFor key value ttl now).map .evicted id
  | .get key => (s.get key now).map .found id
  | .containsLive key => (.live (s.containsLive key now), s)
  | .delete key => (s.delete key).map .removed id
  | .clear => s.clear.map .count id
  | .purge => (s.purge now).map .count id

/-- A write without a lifetime is one for the default lifetime. -/
theorem Store.perform_set (s : Store V) (now : Nat) (key : String) (value : V)
    (ttl? : Option Nat) : s.perform now (.set key value ttl?) =
      (s.setFor key value (ttl?.getD s.defaultTtl) now).map .evicted id := by
  cases ttl? <;> rfl

/-- A store with its clock and the calls made so far. -/
structure Usage (V : Type) where
  now : Nat
  store : Store V
  calls : List (Call V) := []

namespace Usage

/-- Waits, then makes a request. -/
def step (u : Usage V) (x : Step V) : Usage V :=
  let now := u.now + x.wait
  let (reply, store) := u.store.perform now x.request
  { now, store, calls := u.calls ++ [⟨now, x.request, reply⟩] }

/-- One step after the other. -/
def run (u : Usage V) (steps : List (Step V)) : Usage V := steps.foldl step u

/-- What every step preserves holds after any number of them. -/
theorem run_of_step {P : Usage V → Prop} (hstep : ∀ u x, P u → P (u.step x)) {u : Usage V}
    (h : P u) (steps : List (Step V)) : P (u.run steps) := by
  induction steps generalizing u with
  | nil => exact h
  | cons x steps ih => exact ih (hstep u x h)

end Usage

/-- A new store put to use at `start`. -/
def Usage.fresh (maxSize defaultTtl : Nat) (policy : Policy) (start : Nat) : Usage V :=
  { now := start, store := .empty maxSize defaultTtl policy }

end Resilience.Cache
