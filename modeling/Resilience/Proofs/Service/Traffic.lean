import Resilience.Proofs.Service.Looking
import Resilience.Service.Respond

/-!
# Traffic

Look-ups that are under way at once in one world. A look-up that is begun goes on until it waits or
has finished. Only where none is in the middle of its turns may another one begin or any that is
ready go on, in whatever order, and only there is the cache swept and does time pass, up to the end
of the clock.

`Traffic.run` follows any list of happenings, and keeps the turns that were taken, in order, each
with the state and the world it was taken in.
-/

namespace Resilience

/-- Whether the activity goes on before it next waits. -/
def Progress.isRunning {σ α : Type} : Progress σ α → Bool
  | running _ => true
  | _ => false

namespace Service

/-- A request for a key, and how far its look-up has come. -/
structure Visit where
  key : String
  progress : Progress LookState (Except Error Found)

/-- A turn that a visit took. -/
structure Taken where
  /-- The number of the visit, in the order in which the visits began. -/
  visit : Nat
  key : String
  state : LookState
  world : World

/-- The visits so far in a world, and the turns they have taken. -/
structure Traffic where
  world : World
  visits : List Visit := []
  turns : List Taken := []

/-- What happens next. -/
inductive Happening where
  | arrival (key : String)
  /-- The next turn of a visit. -/
  | turn (visit : Nat)
  | sweep
  | passage (d : Nat)
deriving DecidableEq, Repr

namespace Taken

variable (s : Service) (t : Taken)

/-- What the turn leaves. -/
def left : Turn LookState (Except Error Found) := (s.lookup t.key).turn t.state t.world

/-- What the resolver answers in the turn, if it is called. -/
def answer? : Option (Except IoError String) :=
  if (t.left s).world.calls = t.world.calls then none
  else some (s.resolver t.world.calls.length t.key)

end Taken

/-- What the resolver has answered a visit, in order. -/
def answersOf (s : Service) (visit : Nat) (turns : List Taken) : List (Except IoError String) :=
  (turns.filter (·.visit = visit)).filterMap (·.answer? s)

namespace Traffic

/-- No visit yet, in a world with the cache that a configuration asks for. -/
def opened (c : Cache.Config) (w : World) : Traffic :=
  { world := ({ w with cache? := none }.withCache c).1 }

variable (s : Service) (tr : Traffic)

/-- Whether no visit is in the middle of its turns. -/
def isQuiet : Bool := tr.visits.all (!·.progress.isRunning)

/-- The next turn of a visit, if it can take one. -/
def next? (visit : Nat) : Option Taken :=
  tr.visits[visit]?.bind fun v =>
    if v.progress.isRunning || tr.isQuiet then
      (v.progress.ready? tr.world).map fun state => ⟨visit, v.key, state, tr.world⟩
    else none

/-- The traffic after a turn. -/
def take (t : Taken) : Traffic :=
  { world := (t.left s).world
    visits := tr.visits.set t.visit ⟨t.key, (t.left s).progress⟩
    turns := tr.turns ++ [t] }

/-- What cannot happen makes no difference. -/
def act : Happening → Traffic
  | .arrival key =>
    if tr.isQuiet then { tr with visits := tr.visits ++ [⟨key, .running (s.lookup key).start⟩] }
    else tr
  | .turn visit => ((tr.next? visit).map (tr.take s)).getD tr
  | .sweep => if tr.isQuiet then { tr with world := tr.world.background.1 } else tr
  | .passage d =>
    if tr.isQuiet && tr.world.now + d < Time.limit then { tr with world := tr.world.jump d } else tr

/-- One happening after the other. -/
def run (happenings : List Happening) : Traffic := happenings.foldl (act s) tr

end Traffic

end Service

end Resilience
