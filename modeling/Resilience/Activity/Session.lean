import Resilience.Activity.Basic

/-!
# Sessions

A `Session` runs activities side by side in one world. As long as one of them is ready, the first
ready one takes a turn ; then comes what is due in the background ; and when nothing is left to do
at the present instant the clock moves to the next timer. So the clock stands still while there is
work, and at an instant that wakes both an activity and the background the activity goes first.
-/

namespace Resilience

open Telemetry (Event)

/-- An activity and how far it has come. -/
structure Slot (σ α : Type) where
  activity : Activity σ α
  progress : Progress σ α

namespace Slot

variable {σ α : Type}

/-- An activity that has not begun. -/
def ofActivity (p : Activity σ α) : Slot σ α := ⟨p, .running p.start⟩

/-- The activity's next turn, if it is ready for one. -/
def turn? (s : Slot σ α) (w : World) : Option (Turn σ α) :=
  match s.progress with
  | .running state => some (s.activity.turn state w)
  | .waiting state wait =>
    if wait.poll w.tokens w.now = .pending then none else some (s.activity.turn state w)
  | .finished _ => none

/-- When a timer next wakes the activity, if it waits. -/
def nextTick? (s : Slot σ α) : Option Nat :=
  match s.progress with
  | .waiting _ wait => some wait.nextTick
  | _ => none

end Slot

/-- Activities that run side by side, and what has been reported. -/
structure Session (σ α : Type) where
  world : World
  slots : List (Slot σ α)
  events : List Event := []

namespace Session

variable {σ α : Type}

/-- The turn of the first activity that is ready, and the activities after it. -/
def turnOf (w : World) : List (Slot σ α) → Option (Turn σ α × List (Slot σ α))
  | [] => none
  | s :: rest =>
    match s.turn? w with
    | some t => some (t, { s with progress := t.progress } :: rest)
    | none => (turnOf w rest).map fun p => (p.1, s :: p.2)

/-- When the clock next has to stop. -/
def nextTick? (s : Session σ α) : Option Nat :=
  s.slots.foldl (fun t slot => Time.earlier t slot.nextTick?) s.world.nextTick?

/-- One step : a turn, a round in the background, or a move of the clock. There is none when
every activity has finished. -/
def step? (s : Session σ α) : Option (Session σ α) :=
  match turnOf s.world s.slots with
  | some (t, slots) => some ⟨t.world, slots, s.events ++ t.events⟩
  | none =>
    if s.slots.all (·.progress.isFinished) then none
    else if s.world.isDue then
      let (world, events) := s.world.background
      some { s with world, events := s.events ++ events }
    else
      s.nextTick?.map fun t => { s with world := s.world.advance t }

/-- Steps until every activity has finished, at most `fuel` of them. -/
def run : Nat → Session σ α → Session σ α
  | 0, s => s
  | fuel + 1, s =>
    match s.step? with
    | some s => run fuel s
    | none => s

/-- The results, as far as the activities have finished. -/
def results (s : Session σ α) : List (Option α) := s.slots.map (·.progress.result?)

theorem run_of_step_none {s : Session σ α} (h : s.step? = none) (fuel : Nat) : run fuel s = s := by
  cases fuel with
  | zero => rfl
  | succ fuel => simp [run, h]

/-- More steps go on where fewer stop. -/
theorem run_add (m n : Nat) (s : Session σ α) : run (m + n) s = run n (run m s) := by
  induction m generalizing s with
  | zero => simp [run]
  | succ m ih =>
    rw [Nat.succ_add]
    cases h : s.step? with
    | none => rw [run_of_step_none h, run_of_step_none h, run_of_step_none h]
    | some s' => simp [run, h, ih]

end Session

namespace Activity

variable {σ α : Type}

/-- More steps than a session takes in practice. -/
def stepLimit : Nat := 0x1000000000000

/-- Runs activities side by side to their ends and then does what is due in the background. -/
def runAll (ps : List (Activity σ α)) (w : World) : List (Option α) × World × List Event :=
  let s := Session.run stepLimit ⟨w, ps.map .ofActivity, []⟩
  let (world, events) := s.world.settle
  (s.results, world, s.events ++ events)

/-- Runs an activity to its end and then does what is due in the background. -/
def run (p : Activity σ α) (w : World) : Option α × World × List Event :=
  let (results, world, events) := runAll [p] w
  (results.head?.join, world, events)

end Activity

end Resilience
