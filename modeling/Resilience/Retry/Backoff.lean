import Resilience.Number.Seconds
import Resilience.Retry.Config

/-!
# Growing waits

The wait after a failed attempt starts at the configured first wait and grows by the factor up to
the longest. Chance then lengthens or shortens it by at most the configured share, so that a
shortened or lengthened wait may leave those bounds by as much.

Waits are multiplied as floating seconds. A product that is no duration grows to the longest wait,
and leaves a wait that chance would change as it is.
-/

namespace Resilience.Retry

/-- The multiplier for a sample between zero and one : `1 - jitter` at zero, `1 + jitter` at one. -/
def jitterMultiplier (sample jitter : Float) : Float := 1 + (sample * 2 - 1) * jitter

/-- The wait multiplied, or unchanged where the product is no duration. -/
def applyJitter (wait : Nat) (multiplier : Float) : Nat :=
  (Number.Seconds.ofFloat? (Number.Seconds.toFloat wait * multiplier)).getD wait

/-- The wait after the next failure, and how it grows. -/
structure Backoff where
  current : Nat
  longest : Nat
  factor : Float
  jitter : Float
deriving Repr, Inhabited

namespace Backoff

/-- The waits a configuration asks for. -/
def ofConfig (c : Config) : Backoff := ⟨c.initialBackoff, c.maxBackoff, c.factor, c.jitter⟩

/-- The wait as chance changes it, the same wait where chance has no share. -/
def jittered (b : Backoff) (sample : Float) : Nat :=
  if b.jitter == 0 then b.current else applyJitter b.current (jitterMultiplier sample b.jitter)

/-- The next wait without chance. -/
def next (b : Backoff) : Nat :=
  match Number.Seconds.ofFloat? (Number.Seconds.toFloat b.current * b.factor) with
  | some wait => min wait b.longest
  | none => b.longest

/-- The waits after the present one. -/
def grow (b : Backoff) : Backoff := { b with current := b.next }

end Backoff

end Resilience.Retry
