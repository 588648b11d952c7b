import Resilience.Time

/-!
# Cache entries

A stored value with the instants between which it lives. An entry is expired strictly after its
expiry instant, so it lives at that instant still.
-/

namespace Resilience.Cache

/-- A stored value and the last instant at which it is present. -/
structure Entry (V : Type) where
  value : V
  createdAt : Nat
  expiresAt : Nat
deriving Repr

namespace Entry

variable {V : Type}

/-- `value` stored at `now` for `ttl`, or for the horizon where the clock does not reach that
far. -/
def storedAt (value : V) (ttl : Nat) (now : Nat) : Entry V :=
  ⟨value, now, Time.after now ttl⟩

/-- Whether the entry has expired. At the very instant of its expiry it has not. -/
def isExpiredAt (e : Entry V) (now : Nat) : Bool := e.expiresAt < now

/-- What is left of the entry's life at `now`. -/
def remaining (e : Entry V) (now : Nat) : Nat := e.expiresAt - now

end Entry

end Resilience.Cache
