import Resilience.Proofs.Activity.Course
import Resilience.Proofs.Cache.Life

/-!
# Activities under way

An `Undertaking` is an activity under way together with the turns it has taken, and `Happening` is
what can come next : a turn of its own, something that happens to the cache or the clock, or a
change elsewhere in the world. In contrast to a course nothing is asked of others here, and they may
come in between any two turns.

What has finished did so in one of its turns (`Undertaking.exists_last_turn`), after which the world
is as others leave it (`Undertaking.run_of_last_turn`). An activity that leaves the cache and the
clock alone makes no difference to what others make of them (`Undertaking.cache?_run`).
-/

namespace Resilience

variable {σ α : Type}

/-! ## What happens meanwhile -/

/-- What happens while an activity is under way. -/
inductive Happening where
  /-- The activity takes a turn. -/
  | turn
  /-- The cache is used, swept or shut down, or time passes. -/
  | nearby (o : Cache.Occurrence String)
  /-- The rest of the world changes. -/
  | elsewhere (f : World → World)

namespace World

/-- What happens to the cache and the clock. Without a cache there is only the clock. -/
def occur (w : World) : Cache.Occurrence String → World
  | .use u => (w.onCache fun c now => (c.use now u, [])).1
  | .turn => (w.onCache (·.sweep ·)).1
  | .shutdown => (w.onCache fun c _ => c.shutdown).1
  | .passage d => w.jump d

/-- What others do. -/
def meet (w : World) : Happening → World
  | .turn => w
  | .nearby o => w.occur o
  | .elsewhere f => { f w with cache? := w.cache?, now := w.now }

/-- The world after one happening after the other. -/
def meetAll (w : World) (hs : List Happening) : World := hs.foldl meet w

/-- The live value that the cache has under a key. -/
def live? (w : World) (key : String) : Option String := w.cache?.bind (·.store.live? key w.now)

/-- A read answers the live value, and does to the world what the use of a cache does. -/
theorem read_eq (w : World) (key : String) :
    (w.read key).1 = w.live? key ∧ (w.read key).2.1 = w.occur (.use (.get key)) := by
  unfold read live? occur onCache
  cases w.cache? with
  | none => exact ⟨rfl, rfl⟩
  | some c => exact ⟨c.store.fst_get key w.now, rfl⟩

theorem store_eq (w : World) (key value : String) (ttl? : Option Nat) :
    (w.store key value ttl?).1 = w.occur (.use (.set key value ttl?)) := by
  unfold store occur onCache
  cases w.cache? <;> rfl

/-- Where there is no cache, one cannot be used. -/
theorem occur_use_of_none {w : World} (h : w.cache? = none) (u : Cache.Use String) :
    w.occur (.use u) = w := by
  simp [occur, onCache, h]

/-- What others make of the cache and the clock does not depend on the rest of the world. -/
theorem meet_congr {w w' : World} (hcache : w.cache? = w'.cache?) (hnow : w.now = w'.now)
    (h : Happening) :
    (w.meet h).cache? = (w'.meet h).cache? ∧ (w.meet h).now = (w'.meet h).now := by
  cases h with
  | turn => exact ⟨hcache, hnow⟩
  | elsewhere f => exact ⟨hcache, hnow⟩
  | nearby o =>
    cases o with
    | passage d => exact ⟨hcache, congrArg (· + d) hnow⟩
    | use _ | turn | shutdown =>
      simp only [meet, occur, onCache_fst, hcache, hnow, and_self]

theorem cache?_meet_of_none {w : World} (h : w.cache? = none) (x : Happening) :
    (w.meet x).cache? = none := by
  cases x with
  | turn => exact h
  | elsewhere f => exact h
  | nearby o =>
    cases o with
    | passage d => exact h
    | use _ | turn | shutdown => simp only [meet, occur, onCache_fst, h, Option.map_none]

end World

/-! ## Undertakings -/

/-- An activity under way in a world, with the turns it has taken, each given by its state and its
world. -/
structure Undertaking (σ α : Type) where
  world : World
  progress : Progress σ α
  turns : List (σ × World) := []

namespace Undertaking

/-- An activity that is about to begin. -/
def of (p : Activity σ α) (w : World) : Undertaking σ α := ⟨w, .running p.start, []⟩

/-- An activity that has finished takes no more turns. -/
def act (p : Activity σ α) (u : Undertaking σ α) : Happening → Undertaking σ α
  | .turn =>
    match u.progress.state? with
    | some s =>
      ⟨(p.turn s u.world).world, (p.turn s u.world).progress, u.turns ++ [(s, u.world)]⟩
    | none => u
  | h => { u with world := u.world.meet h }

/-- The undertaking after one happening after the other. -/
def run (p : Activity σ α) (u : Undertaking σ α) (hs : List Happening) : Undertaking σ α :=
  hs.foldl (act p) u

/-- An activity that begins in `w` and sees all this happen. -/
def through (p : Activity σ α) (w : World) (hs : List Happening) : Undertaking σ α :=
  (of p w).run p hs

variable {p : Activity σ α} {u : Undertaking σ α}

/-- Its own turn adds to the turns taken. -/
theorem act_turn {s : σ} (h : u.progress.state? = some s) : u.act p .turn =
    ⟨(p.turn s u.world).world, (p.turn s u.world).progress, u.turns ++ [(s, u.world)]⟩ := by
  simp only [act, h]

/-- Once finished, it takes no more turns. -/
theorem act_of_finished {r : α} (h : u.progress = .finished r) (x : Happening) :
    u.act p x = { u with world := u.world.meet x } := by
  cases x with
  | turn =>
    have hstate : u.progress.state? = none := by rw [h]; rfl
    simp only [act, hstate, World.meet]
  | nearby _ | elsewhere _ => rfl

theorem run_append (p : Activity σ α) (u : Undertaking σ α) (before after : List Happening) :
    u.run p (before ++ after) = (u.run p before).run p after :=
  List.foldl_append ..

/-- After the end the world is as others leave it. -/
theorem run_of_finished {r : α} (h : u.progress = .finished r) (hs : List Happening) :
    u.run p hs = { u with world := u.world.meetAll hs } := by
  induction hs generalizing u with
  | nil => rfl
  | cons x hs ih =>
    have hfirst := act_of_finished (p := p) h x
    have hprogress : (u.act p x).progress = .finished r := by rw [hfirst, h]
    show (u.act p x).run p hs = _
    rw [ih hprogress, hfirst]
    rfl

/-- What comes after the last turn changes nothing but the world. -/
theorem run_of_last_turn {r : α} {during : List Happening}
    (h : (u.run p (during ++ [.turn])).progress = .finished r) (hs : List Happening) :
    u.run p (during ++ .turn :: hs) =
      { u.run p (during ++ [.turn]) with
        world := (u.run p (during ++ [.turn])).world.meetAll hs } := by
  rw [List.append_cons, run_append, run_of_finished h]

/-- What has finished did so in one of its turns. -/
theorem exists_last_turn {r : α} (h : u.progress.isFinished = false) {hs : List Happening}
    (hend : (u.run p hs).progress = .finished r) :
    ∃ during rest, hs = during ++ .turn :: rest ∧ (u.run p during).progress.isFinished = false ∧
      (u.run p (during ++ [.turn])).progress = .finished r := by
  induction hs generalizing u with
  | nil =>
    have hnow : u.progress = .finished r := hend
    simp [hnow, Progress.isFinished] at h
  | cons x hs ih =>
    cases hnext : (u.act p x).progress.isFinished with
    | false =>
      obtain ⟨during, rest, rfl, hduring, hlast⟩ := ih hnext hend
      exact ⟨x :: during, rest, rfl, hduring, hlast⟩
    | true =>
      cases x with
      | nearby _ | elsewhere _ => exact absurd (hnext.symm.trans h) (by decide)
      | turn =>
        refine ⟨[], hs, rfl, h, ?_⟩
        show (u.act p .turn).progress = .finished r
        cases hprogress : (u.act p .turn).progress with
        | running _ | waiting _ _ => simp [hprogress, Progress.isFinished] at hnext
        | finished r' =>
          have hrest : ((u.act p .turn).run p hs).progress = .finished r := hend
          rw [run_of_finished hprogress] at hrest
          exact hprogress.symm.trans hrest

/-- What an activity leaves of the world, if all its turns leave so much. -/
theorem run_of_turn {P : World → Prop} (hturn : ∀ s w, P w → P (p.turn s w).world)
    (hmeet : ∀ w x, P w → P (w.meet x)) (h : P u.world) (hs : List Happening) :
    P (u.run p hs).world := by
  refine hs.foldlRecOn (motive := fun u => P u.world) (act p) h fun u h x _ => ?_
  cases x with
  | nearby o => exact hmeet u.world (.nearby o) h
  | elsewhere f => exact hmeet u.world (.elsewhere f) h
  | turn =>
    simp only [act]
    split
    · exact hturn _ _ h
    · exact h

/-- An activity that leaves the cache and the clock alone makes no difference to them. -/
theorem cache?_run (haloof : ∀ s w, (p.turn s w).world.cache? = w.cache? ∧
      (p.turn s w).world.now = w.now) {w : World} (hcache : u.world.cache? = w.cache?)
    (hnow : u.world.now = w.now) (hs : List Happening) :
    (u.run p hs).world.cache? = (w.meetAll hs).cache? ∧
      (u.run p hs).world.now = (w.meetAll hs).now := by
  induction hs generalizing u w with
  | nil => exact ⟨hcache, hnow⟩
  | cons x hs ih =>
    have hfirst : (u.act p x).world.cache? = (w.meet x).cache? ∧
        (u.act p x).world.now = (w.meet x).now := by
      cases x with
      | nearby _ | elsewhere _ => exact World.meet_congr hcache hnow _
      | turn =>
        cases hstate : u.progress.state? with
        | none =>
          simp only [act, hstate]
          exact ⟨hcache, hnow⟩
        | some s =>
          rw [act_turn hstate]
          exact ⟨(haloof s u.world).1.trans hcache, (haloof s u.world).2.trans hnow⟩
    exact ih hfirst.1 hfirst.2

end Undertaking

end Resilience
