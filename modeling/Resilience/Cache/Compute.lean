import Resilience.Activity.Basic

/-!
# Values that are computed when they are missing

`Cache.getOrCompute` reads a key and, if it holds no live value, runs a supplier and stores what
that returns. The cache is free for others while the supplier runs. A failure of the supplier is
passed on and nothing is stored. Without a cache the supplier runs every time.
-/

namespace Resilience.Cache

/-- A value, and whether it was found in the cache. -/
structure Answer where
  value : String
  found : Bool
deriving DecidableEq, Repr, Inhabited

variable {σ ε : Type}

/-- The value under `key`, from the cache or from the supplier, whose value is then stored for the
default lifetime if none is given. -/
def getOrCompute (key : String) (ttl? : Option Nat) (supplier : Activity σ (Except ε String)) :
    Activity (Option σ) (Except ε Answer) where
  start := none
  turn
    | none, w =>
      let (value?, w, events) := w.read key
      match value? with
      | some value => ⟨w, events, .finished (.ok ⟨value, true⟩)⟩
      | none => ⟨w, events, .running (some supplier.start)⟩
    | some s, w =>
      (supplier.turn s w).inside some fun
        | .ok value, w =>
          let (w, events) := w.store key value ttl?
          ⟨w, events, .finished (.ok ⟨value, false⟩)⟩
        | .error e, w => ⟨w, [], .finished (.error e)⟩

end Resilience.Cache
