import Resilience.Number.Dyadic
import Resilience.Time

/-!
# Durations as floating seconds

A duration becomes a float by adding its whole seconds and its nanoseconds over a thousand million,
each as a float (`toFloat`). A float becomes the duration nearest to its exact value
(`ofFloat?`). Values that are not numbers, negative or too long for a duration become none.
-/

namespace Resilience.Number.Seconds

/-- A duration in seconds. -/
def toFloat (d : Nat) : Float :=
  Float.ofNat (d / Time.second) + Float.ofNat (d % Time.second) / Float.ofNat Time.second

/-- The number of seconds at which durations end. -/
def bound : Float := Float.ofNat (wordLimit + 1)

/-- The duration nearest to `x` seconds. -/
def ofFloat? (x : Float) : Option Nat :=
  if 0 ≤ x ∧ x < bound then
    let (num, den) := (Dyadic.ofFloat x).toQuotient
    some (roundQuotient (num * Time.second) den)
  else
    none

end Resilience.Number.Seconds
