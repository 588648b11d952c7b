import Resilience.Failure.Interruption
import Resilience.Time

/-!
# Cancellation

A `Cancellation` is a handle on work in progress : a token, by which the work can be called off,
and perhaps a deadline. Handles share tokens, and a token may have a parent, so that calling off
the parent calls off everything below it. A handle ends when its token or one above it is called
off or when its deadline is reached.

`Tokens` records which tokens have been called off. A `Wait` is a sleep that its handle, if it has
one, may end early. Whether a handle has ended is judged by the exact instant, while a wait ends
with its timers, at whole milliseconds.
-/

namespace Resilience

/-- A token : its own number and those above it, nearest first. -/
structure Token where
  lineage : List Nat
deriving DecidableEq, Repr, Inhabited

/-- The tokens handed out and those called off. -/
structure Tokens where
  next : Nat := 0
  cancelled : List Nat := []
deriving DecidableEq, Repr, Inhabited

namespace Tokens

/-- A new token with no parent. -/
def fresh (ts : Tokens) : Token × Tokens := (⟨[ts.next]⟩, { ts with next := ts.next + 1 })

/-- A new token below `t`. -/
def child (ts : Tokens) (t : Token) : Token × Tokens :=
  (⟨ts.next :: t.lineage⟩, { ts with next := ts.next + 1 })

/-- Calls `t` off, and with it every token below. -/
def cancel (ts : Tokens) (t : Token) : Tokens :=
  match t.lineage with
  | [] => ts
  | own :: _ => { ts with cancelled := own :: ts.cancelled }

/-- Whether `t` or a token above it was called off. -/
def isCancelled (ts : Tokens) (t : Token) : Bool := t.lineage.any ts.cancelled.contains

end Tokens

/-- A handle on work in progress. -/
structure Cancellation where
  token : Token
  deadline? : Option Nat := none
deriving DecidableEq, Repr, Inhabited

/-- A sleep until an instant, which a handle may end early. -/
structure Wait where
  ends : Nat
  handle? : Option Cancellation := none
deriving DecidableEq, Repr, Inhabited

/-- How far a wait has come. -/
inductive Waited where
  | pending
  | over
  | interrupted (reason : Interruption)
deriving DecidableEq, Repr, Inhabited

namespace Cancellation

/-- The handle with a deadline at `t`, or its own if that is earlier. -/
def withDeadline (c : Cancellation) (t : Nat) : Cancellation :=
  { c with deadline? := Time.earlier c.deadline? (some t) }

/-- The handle with a deadline `d` from `now`. -/
def withTimeout (c : Cancellation) (now d : Nat) : Cancellation := c.withDeadline (Time.after now d)

/-- A handle that ends with `c`, and whose own end leaves `c` alone. -/
def child (c : Cancellation) (ts : Tokens) : Cancellation × Tokens :=
  let (token, ts) := ts.child c.token
  ({ c with token }, ts)

/-- Why the handle has ended, if it has. A token called off goes before a deadline reached. -/
def check (c : Cancellation) (ts : Tokens) (now : Nat) : Option Interruption :=
  if ts.isCancelled c.token then some .cancelled
  else if c.deadline?.any (· ≤ now) then some .deadlineExceeded
  else none

/-- How far waiting for the handle's end has come. -/
def waited (c : Cancellation) (ts : Tokens) (now : Nat) : Waited :=
  if ts.isCancelled c.token then .interrupted .cancelled
  else if c.deadline?.any (Time.fired · now) then .interrupted .deadlineExceeded
  else .pending

/-- Begins a sleep of `d`, unless the handle has ended already. -/
def sleep (c : Cancellation) (ts : Tokens) (now d : Nat) : Except Interruption Wait :=
  match c.check ts now with
  | some reason => .error reason
  | none => .ok { ends := Time.after now d, handle? := some c }

end Cancellation

namespace Wait

/-- A sleep of `d` that nothing ends early. -/
def pause (now d : Nat) : Wait := { ends := Time.after now d }

/-- How far the wait has come. Where both end at once the handle goes before the sleep. -/
def poll (w : Wait) (ts : Tokens) (now : Nat) : Waited :=
  match (w.handle?.map fun c => c.waited ts now).getD .pending with
  | .interrupted reason => .interrupted reason
  | _ => if Time.fired w.ends now then .over else .pending

/-- The earliest instant at which a timer of the wait fires. -/
def nextTick (w : Wait) : Nat :=
  Time.tick <| match w.handle?.bind Cancellation.deadline? with
    | some deadline => min deadline w.ends
    | none => w.ends

end Wait

end Resilience
