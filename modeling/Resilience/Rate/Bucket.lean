import Resilience.Time

/-!
# Token buckets

A `Bucket` holds up to `capacity` tokens and earns `rate` of them a second. Only whole tokens
are earned, and the refill clock moves only when at least one was, so that a caller who asks
often loses nothing.

The product of a duration and a rate is kept to 128 bits and the tokens earned to 64.
-/

namespace Resilience.Rate

/-- The largest product of nanoseconds and rate that is held. -/
def productLimit : Nat := Number.word128Limit

/-- The largest number of tokens that is held. -/
def tokenLimit : Nat := Number.wordLimit

/-- Whole tokens earned in `elapsed` at `rate` tokens a second. -/
def tokensEarned (elapsed : Nat) (rate : Nat) : Nat :=
  min (min (elapsed * rate) productLimit / Time.second) tokenLimit

/-- Tokens, and the instant up to which they have been earned. -/
structure Bucket where
  tokens : Nat
  capacity : Nat
  /-- Tokens earned a second. -/
  rate : Nat
  lastRefill : Nat
deriving DecidableEq, Repr, Inhabited

namespace Bucket

/-- A full bucket. Capacity and rate are at least one. -/
def full (capacity rate : UInt32) (now : Nat) : Bucket :=
  { tokens := max capacity.toNat 1
    capacity := max capacity.toNat 1
    rate := max rate.toNat 1
    lastRefill := now }

/-- Adds the tokens earned since the last refill, up to the capacity. -/
def refill (b : Bucket) (now : Nat) : Bucket :=
  let earned := tokensEarned (now - b.lastRefill) b.rate
  if earned = 0 then b
  else { b with
    tokens := min (min (b.tokens + earned) tokenLimit) b.capacity
    lastRefill := now }

/-- Refills, then takes one token if there is one. -/
def take (b : Bucket) (now : Nat) : Bool × Bucket :=
  let b := b.refill now
  if b.tokens = 0 then (false, b) else (true, { b with tokens := b.tokens - 1 })

/-- Full again, and refilled as of `now`. -/
def reset (b : Bucket) (now : Nat) : Bucket :=
  { b with tokens := b.capacity, lastRefill := now }

end Bucket

end Resilience.Rate
