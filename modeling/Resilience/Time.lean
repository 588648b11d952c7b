import Resilience.Number.Word

/-!
# The clock

Durations are whole nanoseconds, and an instant is the duration since the clock was started : both
are natural numbers. Subtraction of instants stops at zero, which is what the time since an instant
still to come should be.

The clock ends. `Time.after?` has no answer at or beyond `Time.limit`, and where an answer is needed
`Time.after` takes the horizon of thirty years instead. The horizon is taken to be on the clock, as
it is in all but the last thirty of its 292 billion years, and is not checked again.

Timers have a resolution of one millisecond. A timer set to an instant fires at the first whole
millisecond not before it (`Time.tick`), while comparisons with the present are exact.
-/

namespace Resilience.Time

/-- The resolution of timers. -/
def millisecond : Nat := 1000000

/-- One second, in nanoseconds. -/
def second : Nat := 1000000000

/-- So many milliseconds as a duration. -/
def ofMillis (ms : Nat) : Nat := ms * millisecond

/-- Whole milliseconds in `d`, the rest dropped. -/
def toMillis (d : Nat) : Nat := d / millisecond

/-- Whole seconds in `d`, the rest dropped. -/
def toSeconds (d : Nat) : Nat := d / second

/-- The longest duration : a 64-bit count of seconds and the nanoseconds below one more. -/
def longest : Nat := (Number.wordLimit + 1) * second - 1

/-- The shortest duration a component accepts : zero is raised to it. -/
def shortest : Nat := millisecond

/-- Thirty years, the stand-in for an end the clock cannot hold. -/
def horizon : Nat := 86400 * 365 * 30 * second

/-- The first instant beyond the clock : seconds are a signed 64-bit count. -/
def limit : Nat := (Number.wordLimit / 2 + 1) * second

/-- The instant `d` after `t`, if the clock reaches that far. -/
def after? (t d : Nat) : Option Nat := if t + d < limit then some (t + d) else none

/-- The instant `d` after `t`, or the horizon after `t` where the clock does not reach that far. The
horizon itself is not checked against the end of the clock. -/
def after (t d : Nat) : Nat := (after? t d).getD (t + horizon)

/-- The first whole millisecond not before `t`. -/
def tick (t : Nat) : Nat := (t + (millisecond - 1)) / millisecond * millisecond

/-- Whether a timer set to `t` has fired at `now`. -/
def fired (t now : Nat) : Bool := tick t ≤ now

/-- The earlier of two ends, either of which may be missing. -/
def earlier : Option Nat → Option Nat → Option Nat
  | some t, some u => some (min t u)
  | some t, none => some t
  | none, u => u

theorem le_tick (t : Nat) : t ≤ tick t := by
  simp only [tick, millisecond]
  omega

theorem tick_lt (t : Nat) : tick t < t + millisecond := by
  simp only [tick, millisecond]
  omega

theorem tick_tick (t : Nat) : tick (tick t) = tick t := by
  simp only [tick, millisecond]
  omega

theorem tick_mono {t u : Nat} (h : t ≤ u) : tick t ≤ tick u := by
  simp only [tick, millisecond]
  omega

theorem le_of_fired {t now : Nat} (h : fired t now = true) : t ≤ now :=
  Nat.le_trans (le_tick t) (by simpa [fired] using h)

theorem le_after (t d : Nat) : t ≤ after t d := by
  simp only [after, after?]
  split <;> simp

end Resilience.Time
