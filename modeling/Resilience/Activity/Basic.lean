import Resilience.World

/-!
# Activities

An `Activity` is work that shares the world with other work. It runs in turns : each turn starts
from the activity's own state and the world as it finds it, changes the world, reports events, and
then goes on, waits or has finished. An activity that goes on takes its next turn before any other
does, so that others come in only where it waits.

An activity that waits is given its next turn once its wait is no longer pending. A turn taken
earlier finds the wait pending and goes on waiting, so nothing depends on when turns are given.
-/

namespace Resilience

open Telemetry (Event)

/-- What an activity does next. -/
inductive Progress (σ α : Type) where
  | running (state : σ)
  | waiting (state : σ) (wait : Wait)
  | finished (result : α)
deriving Repr, Inhabited

/-- What a turn leaves : the world, the events reported, and what the activity does next. -/
structure Turn (σ α : Type) where
  world : World
  events : List Event := []
  progress : Progress σ α

/-- Work with states `σ` and results `α`. -/
structure Activity (σ α : Type) where
  start : σ
  turn : σ → World → Turn σ α

namespace Progress

variable {σ α : Type}

/-- Whether the activity has come to its end. -/
def isFinished : Progress σ α → Bool
  | finished _ => true
  | _ => false

/-- What the activity came to, once it has come to its end. -/
def result? : Progress σ α → Option α
  | finished a => some a
  | _ => none

end Progress

namespace Turn

variable {σ τ α β : Type}

/-- The turn of an activity in which another one runs : the inner state becomes the outer one by
`wrap`, and a finished inner activity is followed by `andThen`, whose events come after. -/
def inside (t : Turn σ α) (wrap : σ → τ) (andThen : α → World → Turn τ β) : Turn τ β :=
  match t.progress with
  | .running s => ⟨t.world, t.events, .running (wrap s)⟩
  | .waiting s wait => ⟨t.world, t.events, .waiting (wrap s) wait⟩
  | .finished a =>
    let rest := andThen a t.world
    { rest with events := t.events ++ rest.events }

theorem inside_of_running {t : Turn σ α} {s : σ} (h : t.progress = .running s) (wrap : σ → τ)
    (andThen : α → World → Turn τ β) :
    t.inside wrap andThen = ⟨t.world, t.events, .running (wrap s)⟩ := by
  simp [inside, h]

theorem inside_of_waiting {t : Turn σ α} {s : σ} {wait : Wait} (h : t.progress = .waiting s wait)
    (wrap : σ → τ) (andThen : α → World → Turn τ β) :
    t.inside wrap andThen = ⟨t.world, t.events, .waiting (wrap s) wait⟩ := by
  simp [inside, h]

theorem inside_of_finished {t : Turn σ α} {a : α} (h : t.progress = .finished a) (wrap : σ → τ)
    (andThen : α → World → Turn τ β) :
    t.inside wrap andThen =
      { andThen a t.world with events := t.events ++ (andThen a t.world).events } := by
  simp [inside, h]

end Turn

namespace Activity

variable {σ α β : Type}

/-- A wait. `begin` starts it or says that there is none, and `finish` says what comes of its
end, which is by itself or with an interruption. -/
def wait (begin : World → Except α Wait) (finish : Option Interruption → α) :
    Activity (Option Wait) α where
  start := none
  turn
    | none, w =>
      match begin w with
      | .error a => ⟨w, [], .finished a⟩
      | .ok wait => ⟨w, [], .running (some wait)⟩
    | some wait, w =>
      match wait.poll w.tokens w.now with
      | .pending => ⟨w, [], .waiting (some wait) wait⟩
      | .over => ⟨w, [], .finished (finish none)⟩
      | .interrupted reason => ⟨w, [], .finished (finish (some reason))⟩

/-- A sleep of `d`. -/
def pause (d : Nat) : Activity (Option Wait) Unit :=
  wait (fun w => .ok (.pause w.now d)) fun _ => ()

/-- A sleep of `d` that ends early with the handle, and does not begin if the handle has
ended. Answers the interruption, if there was one. -/
def sleep (c : Cancellation) (d : Nat) : Activity (Option Wait) (Option Interruption) :=
  wait (fun w => (c.sleep w.tokens w.now d).mapError some) id

/-- The end of the handle, if it comes within `limit`. -/
def awaitEnd (c : Cancellation) (limit : Nat) : Activity (Option Wait) (Option Interruption) :=
  wait (fun w => .ok ⟨Time.after w.now limit, some c⟩) id

/-- The activity `p` makes of what `begin` prepares in the first turn, or no activity at all if
`begin` has a result already. -/
def prepare {γ : Type} (begin : World → World × Except α γ) (p : γ → Activity σ α) :
    Activity (Option (γ × σ)) α where
  start := none
  turn
    | none, w =>
      match begin w with
      | (w, .error a) => ⟨w, [], .finished a⟩
      | (w, .ok c) => ⟨w, [], .running (some (c, (p c).start))⟩
    | some (c, s), w =>
      ((p c).turn s w).inside (fun s => some (c, s)) fun a w => ⟨w, [], .finished a⟩

/-- `p` with its result put through `f`. -/
def map (f : α → β) (p : Activity σ α) : Activity σ β where
  start := p.start
  turn s w := (p.turn s w).inside id fun a w => ⟨w, [], .finished (f a)⟩

/-- `p` after a sleep of `d`. -/
def after (d : Nat) (p : Activity σ α) : Activity (Option Wait ⊕ σ) α where
  start := .inl none
  turn
    | .inl s, w => ((pause d).turn s w).inside .inl fun _ w => ⟨w, [], .running (.inr p.start)⟩
    | .inr s, w => (p.turn s w).inside .inr fun a w => ⟨w, [], .finished a⟩

/-- `p` with the instant at which it finished. -/
def timed (p : Activity σ α) : Activity σ (α × Nat) where
  start := p.start
  turn s w := (p.turn s w).inside id fun a w => ⟨w, [], .finished (a, w.now)⟩

end Activity

end Resilience
