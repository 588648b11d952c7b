import Resilience.Proofs.Activity.Course
import Resilience.Proofs.Cache.Sweeping

/-!
# One activity alone

A session of one activity takes its turns, does what is due in the background and moves the clock
from timer to timer, so that the activity follows a course on which nothing else happens
(`Activity.Solo`). If the activity has a bound on its turns the session comes to an end
(`Activity.ends_solo`) : what is due at one instant is done in finitely many rounds, and then the
clock moves on to the next timer, which is the wait's at the latest. All that this takes of the
world is that the sweep of the cache, if there is one, does not come again at once (`World.Steady`).
The same holds of any goal on the way (`Activity.Carried.reaches`), and an activity that has come to
run another one inside it goes along with that one alone (`Session.run_inside`).
-/

namespace Resilience

open Telemetry (Event)

variable {σ α : Type}

/-! ## Work in the background -/

namespace Cache

/-- The tick after this one is later, unless the task fails. -/
theorem Sweeper.rescheduled_eq {s interval now : Nat} (hinterval : 0 < interval) (hs : s ≤ now) :
    Sweeper.rescheduled s interval now = .failed ∨
      ∃ next, Sweeper.rescheduled s interval now = .ticking next ∧ s < next := by
  unfold rescheduled Time.after?
  split
  · split <;> rename_i next h
    · split at h <;> cases h
      exact .inr ⟨_, rfl, by omega⟩
    · exact .inl rfl
  · refine .inr ⟨_, rfl, ?_⟩
    split
    · rw [Option.getD_some]
      omega
    · simp only [Option.getD_none, Time.horizon, Time.second]
      omega

namespace Expiring

/-- More rounds than the sweeping task has to do at `now`. -/
def work (c : Expiring String) (now : Nat) : Nat :=
  match c.sweeper with
  | .created => now + 3
  | .ticking s => if c.stopRequested then 1 else now + 1 - s
  | .stopped | .failed => 0

theorem work_of_ticking {c : Expiring String} {s : Nat} (h : c.sweeper = .ticking s)
    (hstop : c.stopRequested = false) (now : Nat) : c.work now = now + 1 - s := by
  simp [work, h, hstop]

theorem work_of_failed {c : Expiring String} (h : c.sweeper = .failed) (now : Nat) :
    c.work now = 0 := by
  simp [work, h]

theorem work_begin_lt (c : Expiring String) (now : Nat) : (c.begin now).1.work now < now + 3 := by
  unfold work
  split
  · rename_i h
    unfold begin at h
    simp only at h
    split at h <;> cases h
  · split <;> omega
  · omega
  · omega

theorem work_tick_lt {c : Expiring String} (hinterval : 0 < c.config.sweepInterval) {s now : Nat}
    (hstop : c.stopRequested = false) (hs : s ≤ now) : (c.tick s now).1.work now < now + 1 - s := by
  have hsweeper : (c.tick s now).1.sweeper = .rescheduled s c.config.sweepInterval now := by
    rw [c.tick_fst now s]
  have hstop' : (c.tick s now).1.stopRequested = false := by
    rwa [c.tick_fst now s]
  generalize (c.tick s now).1 = c' at hsweeper hstop'
  rcases Sweeper.rescheduled_eq hinterval hs with h | ⟨next, h, hnext⟩
  · rw [work_of_failed (hsweeper.trans h)]
    omega
  · rw [work_of_ticking (hsweeper.trans h) hstop']
    omega

/-- A sweep with something to do has less to do after it. -/
theorem work_sweep_lt {c : Expiring String} (hinterval : 0 < c.config.sweepInterval) {now : Nat}
    (h : c.isDue now = true) : (c.sweep now).1.work now < c.work now := by
  cases hsweeper : c.sweeper with
  | created =>
    have hwork : c.work now = now + 3 := by simp [work, hsweeper]
    have hsweep : c.sweep now = c.begin now := by simp [sweep, hsweeper]
    rw [hwork, hsweep]
    exact work_begin_lt c now
  | ticking s =>
    cases hstop : c.stopRequested with
    | true => simp [sweep, work, hsweeper, hstop]
    | false =>
      have hfired : Time.fired s now = true := by simpa [isDue, hsweeper, hstop] using h
      rw [work_of_ticking hsweeper hstop, sweep_eq_tick hsweeper hstop hfired]
      exact work_tick_lt hinterval hstop (Time.le_of_fired hfired)
  | stopped => simp [isDue, hsweeper] at h
  | failed => simp [isDue, hsweeper] at h

theorem work_sweep_le {c : Expiring String} (hinterval : 0 < c.config.sweepInterval) (now : Nat) :
    (c.sweep now).1.work now ≤ c.work now := by
  cases h : c.isDue now with
  | true => exact Nat.le_of_lt (work_sweep_lt hinterval h)
  | false => exact Nat.le_of_eq (by rw [sweep_of_not_due h])

end Expiring

end Cache

namespace World

/-- The sweep of the cache, if there is one, takes its time to come again. -/
def Steady (w : World) : Prop := ∀ c, w.cache? = some c → 0 < c.config.sweepInterval

theorem Steady.of_map {w w' : World} (h : w.Steady)
    {f : Cache.Expiring String → Cache.Expiring String} (hcache : w'.cache? = w.cache?.map f)
    (hf : ∀ c, (f c).config = c.config) : w'.Steady := by
  intro c hc
  rw [hcache, Option.map_eq_some_iff] at hc
  obtain ⟨c', hc', rfl⟩ := hc
  rw [hf]
  exact h c' hc'

/-- No cache is swept without a pause, since setters leave at least a millisecond. -/
theorem steady_withCache {w : World} (h : w.Steady) (c : Cache.Config) :
    (w.withCache c).1.Steady := by
  unfold withCache
  split
  · rintro _ ⟨⟩
    exact Nat.lt_of_lt_of_le (by decide) (Nat.le_max_right _ _)
  · exact h

theorem steady_withLimiter {w : World} (h : w.Steady) (c : Rate.Config) :
    (w.withLimiter c).1.Steady := by
  unfold withLimiter
  split <;> exact h

/-- A world made from settings is steady, whatever they are. -/
theorem steady_ofSettings (s : Settings) : (ofSettings s).1.Steady :=
  steady_withLimiter (steady_withCache (by rintro c ⟨⟩) s.cache) s.rateLimit

/-- More rounds than there are to do in the background at the present instant. -/
def chores (w : World) : Nat := w.cancels.length + (w.cache?.map (·.work w.now)).getD 0

theorem steady_background {w : World} (h : w.Steady) : w.background.1.Steady :=
  h.of_map w.cache?_background fun c => c.sweep_config w.now

/-- A round in the background has less to do after it. -/
theorem chores_background_lt {w : World} (hw : w.Steady) (h : w.isDue = true) :
    w.background.1.chores < w.chores := by
  have hcancels := List.length_filter_le (fun c => !Time.fired c.1 w.now) w.cancels
  unfold chores
  rw [cache?_background, cancels_background, background_now]
  unfold isDue at h
  rcases Bool.or_eq_true_iff.1 h with hdue | hdue
  · have hlt : (w.cancels.filter fun c => !Time.fired c.1 w.now).length < w.cancels.length := by
      obtain ⟨c, hc, hfired⟩ := List.any_eq_true.1 hdue
      exact List.length_filter_lt_length_iff_exists.2 ⟨c, hc, by simp [hfired]⟩
    cases hc : w.cache? with
    | none => simpa using hlt
    | some c =>
      have := Cache.Expiring.work_sweep_le (hw c hc) w.now
      simp only [Option.map_some, Option.getD_some]
      omega
  · obtain ⟨c, hc, hsweep⟩ := (Option.any_eq_true _ _).1 hdue
    have := Cache.Expiring.work_sweep_lt (hw c hc) hsweep
    simp only [hc, Option.map_some, Option.getD_some]
    omega

/-- The clock may move to `t` : it has something to wait for, and passes no timer on the way. -/
structure MovesOn (w : World) (wait : Wait) (t : Nat) : Prop where
  pending : wait.poll w.tokens w.now = .pending
  now_lt : w.now < t
  le_nextTick : t ≤ wait.nextTick
  le_background : ∀ u, w.nextTick? = some u → t ≤ u

end World

/-! ## The steps of a session of one activity -/

namespace Session

/-- The session of one activity. -/
def alone (p : Activity σ α) (w : World) : Session σ α := ⟨w, [.ofActivity p], []⟩

variable {p : Activity σ α} {w : World} {progress : Progress σ α} {s : σ} {wait : Wait}
  {events : List Event}

/-- An activity that is ready takes its turn. -/
theorem step?_of_ready (h : progress.ready? w = some s) :
    (⟨w, [⟨p, progress⟩], events⟩ : Session σ α).step? =
      some ⟨(p.turn s w).world, [⟨p, (p.turn s w).progress⟩], events ++ (p.turn s w).events⟩ := by
  simp only [step?, turnOf, Slot.turn?_eq, h, Option.map_some]

/-- Once the activity has finished, so has its session. -/
theorem step?_of_finished {r : α} :
    (⟨w, [⟨p, .finished r⟩], events⟩ : Session σ α).step? = none := by
  simp [step?, turnOf, Slot.turn?, Progress.isFinished]

/-- While the activity waits, what is due is done, and then the clock moves to the next timer. -/
theorem step?_of_pending (p : Activity σ α) (s : σ) (events : List Event)
    (h : wait.poll w.tokens w.now = .pending) :
    (⟨w, [⟨p, .waiting s wait⟩], events⟩ : Session σ α).step? =
      if w.isDue then
        some ⟨w.background.1, [⟨p, .waiting s wait⟩], events ++ w.background.2⟩
      else
        (Time.earlier w.nextTick? (some wait.nextTick)).map fun t =>
          ⟨w.advance t, [⟨p, .waiting s wait⟩], events⟩ := by
  simp only [step?, turnOf, Slot.turn?, h, if_true, Option.map_none, List.all_cons,
    Progress.isFinished, Bool.false_and, Bool.false_eq_true, if_false]
  rfl

/-- When nothing is due the clock moves on, and stops at the next timer of all. -/
theorem step?_of_pending_of_not_due (p : Activity σ α) (s : σ) (events : List Event)
    (h : wait.poll w.tokens w.now = .pending) (hdue : w.isDue = false) :
    ∃ t, w.MovesOn wait t ∧
      (⟨w, [⟨p, .waiting s wait⟩], events⟩ : Session σ α).step? =
        some ⟨w.advance t, [⟨p, .waiting s wait⟩], events⟩ := by
  have hwait := Wait.now_lt_nextTick h
  rw [step?_of_pending p s events h, if_neg (by simp [hdue])]
  cases ht : w.nextTick? with
  | none =>
    exact ⟨wait.nextTick, ⟨h, hwait, Nat.le_refl _, fun u hu => by simp [ht] at hu⟩, rfl⟩
  | some t =>
    have hbackground := World.now_lt_nextTick? hdue ht
    refine ⟨min t wait.nextTick, ⟨h, by omega, Nat.min_le_right _ _, fun u hu => ?_⟩, rfl⟩
    rw [ht, Option.some.injEq] at hu
    exact hu ▸ Nat.min_le_left _ _

theorem run_of_step {s s' : Session σ α} (h : s.step? = some s') (fuel : Nat) :
    run (fuel + 1) s = run fuel s' := by
  rw [run, h]

/-- An activity that does nothing but take the turns of another one goes along with it : after as
many steps both are in the same world, and equally far. -/
theorem run_inside {τ β : Type} {q : Activity τ β} {wrap : σ → τ} {f : α → β}
    (hturn : ∀ s w, (q.turn (wrap s) w).upshot =
      ((p.turn s w).progress.map wrap f, (p.turn s w).world))
    (fuel : Nat) (w : World) (progress : Progress σ α) (events events' : List Event) :
    ∃ w' progress' reports reports',
      run fuel ⟨w, [⟨p, progress⟩], events⟩ = ⟨w', [⟨p, progress'⟩], reports⟩ ∧
      run fuel ⟨w, [⟨q, progress.map wrap f⟩], events'⟩ =
        ⟨w', [⟨q, progress'.map wrap f⟩], reports'⟩ := by
  induction fuel generalizing w progress events events' with
  | zero => exact ⟨w, progress, events, events', rfl, rfl⟩
  | succ fuel ih =>
    cases hready : progress.ready? w with
    | some s =>
      have hready' : (progress.map wrap f).ready? w = some (wrap s) := by
        rw [Progress.ready?_map, hready, Option.map_some]
      obtain ⟨hprogress, hworld⟩ := Prod.mk.inj (hturn s w)
      rw [run_of_step (step?_of_ready hready), run_of_step (step?_of_ready hready'), hprogress,
        hworld]
      exact ih _ _ _ _
    | none =>
      cases progress with
      | running s => cases hready
      | finished a =>
        rw [run_of_step_none step?_of_finished, Progress.map, run_of_step_none step?_of_finished]
        exact ⟨w, .finished a, events, events', rfl, rfl⟩
      | waiting s wait =>
        have hpending : wait.poll w.tokens w.now = .pending := by
          simpa [Progress.ready?] using hready
        have hstep := step?_of_pending p s events hpending
        have hstep' := step?_of_pending q (wrap s) events' hpending
        cases hdue : w.isDue with
        | true =>
          rw [if_pos hdue] at hstep hstep'
          rw [run_of_step hstep, Progress.map, run_of_step hstep']
          exact ih _ (.waiting s wait) _ _
        | false =>
          rw [if_neg (by simp [hdue])] at hstep hstep'
          cases ht : Time.earlier w.nextTick? (some wait.nextTick) with
          | none =>
            rw [ht] at hstep hstep'
            rw [run_of_step_none hstep, Progress.map, run_of_step_none hstep']
            exact ⟨w, .waiting s wait, events, events', rfl, rfl⟩
          | some t =>
            rw [ht] at hstep hstep'
            rw [run_of_step hstep, Progress.map, run_of_step hstep']
            exact ih _ (.waiting s wait) _ _

end Session

/-! ## Solo courses -/

namespace Activity

/-- The courses that an activity takes alone : while it waits there is only the work in the
background, and the clock that moves to the wait's next timer at most. -/
inductive Solo (p : Activity σ α) (w₀ : World) : List (σ × World) → Progress σ α → World → Prop
  | start : p.Solo w₀ [] (.running p.start) w₀
  | turn {turns progress s w} (h : p.Solo w₀ turns progress w)
      (hs : progress.ready? w = some s) :
      p.Solo w₀ (turns ++ [(s, w)]) (p.turn s w).progress (p.turn s w).world
  | background {turns s wait w} (h : p.Solo w₀ turns (.waiting s wait) w) :
      p.Solo w₀ turns (.waiting s wait) w.background.1
  | advance {turns s wait w} (t : Nat) (h : p.Solo w₀ turns (.waiting s wait) w)
      (ht : t ≤ wait.nextTick) : p.Solo w₀ turns (.waiting s wait) (w.advance t)

variable {p : Activity σ α} {w₀ w : World} {turns : List (σ × World)} {progress : Progress σ α}

/-- An activity alone is on its course. -/
theorem Solo.course (h : p.Solo w₀ turns progress w) : p.Course w₀ turns progress w := by
  induction h with
  | start => exact .start
  | turn _ hs ih => exact ih.turn hs
  | @background _ _ wait w _ ih =>
    exact ih.others w.becomes_background (w.background_now ▸ Nat.le_max_left _ _)
  | @advance _ _ wait w t _ ht ih =>
    refine ih.others (w.becomes_advance t) ?_
    show max w.now t ≤ max w.now wait.nextTick
    omega

/-- What every step keeps holds all along. -/
theorem Solo.kept {P : World → Prop} (hkept : World.Kept p P) (h : p.Solo w₀ turns progress w)
    (hw₀ : P w₀) : P w := by
  induction h with
  | start => exact hw₀
  | turn _ _ ih => exact hkept.turn _ ih
  | background _ ih => exact hkept.background ih
  | advance t _ _ ih => exact hkept.advance t ih

end Activity

/-! ## The end of it -/

/-- How long a wait still takes at most. -/
def Progress.remaining (progress : Progress σ α) (w : World) : Nat :=
  match progress with
  | waiting _ wait => wait.nextTick - w.now
  | _ => 0

namespace Activity

variable {p : Activity σ α} {w₀ : World} {bound : Nat}

/-- What an activity that is alone carries along until it gets to its goal. -/
structure Carried (p : Activity σ α) (goal : Progress σ α → Prop)
    (I : List (σ × World) → Progress σ α → World → Prop) : Prop where
  turn : ∀ {turns progress s w}, I turns progress w → ¬goal progress →
    progress.ready? w = some s → I (turns ++ [(s, w)]) (p.turn s w).progress (p.turn s w).world
  background : ∀ {turns s wait w}, I turns (.waiting s wait) w →
    I turns (.waiting s wait) w.background.1
  advance : ∀ {turns s wait w} t, I turns (.waiting s wait) w → w.MovesOn wait t →
    I turns (.waiting s wait) (w.advance t)
  steady : ∀ {turns progress w}, I turns progress w → w.Steady

/-- With a bound on its turns it gets there, or finishes before. A turn leaves fewer turns, a move
of the clock leaves less of the wait, and a round in the background leaves both as they are and does
some of what is due. -/
theorem Carried.reaches {goal : Progress σ α → Prop}
    {I : List (σ × World) → Progress σ α → World → Prop} (hI : p.Carried goal I)
    (hbound : ∀ {turns progress w}, I turns progress w → turns.length ≤ bound)
    {turns : List (σ × World)} {progress : Progress σ α} {w : World} (h : I turns progress w)
    (events : List Event) :
    ∃ fuel turns' progress' w' events', I turns' progress' w' ∧
      (goal progress' ∨ ∃ r, progress' = .finished r) ∧
      Session.run fuel ⟨w, [⟨p, progress⟩], events⟩ = ⟨w', [⟨p, progress'⟩], events'⟩ := by
  by_cases hgoal : goal progress
  · exact ⟨0, turns, progress, w, events, h, .inl hgoal, rfl⟩
  cases hready : progress.ready? w with
  | some s =>
    have hnext := hI.turn h hgoal hready
    have hlength : turns.length + 1 ≤ bound := by simpa using hbound hnext
    obtain ⟨fuel, rest⟩ := reaches hI hbound hnext (events ++ (p.turn s w).events)
    exact ⟨fuel + 1, by rwa [Session.run_of_step (Session.step?_of_ready hready)]⟩
  | none =>
    cases hprogress : progress with
    | running s => simp [hprogress, Progress.ready?] at hready
    | finished r => exact ⟨0, turns, .finished r, w, events, hprogress ▸ h, .inr ⟨r, rfl⟩, rfl⟩
    | waiting s wait =>
      have hpending : wait.poll w.tokens w.now = .pending := by
        simpa [hprogress, Progress.ready?] using hready
      rw [hprogress] at h
      cases hdue : w.isDue with
      | true =>
        have hchores := World.chores_background_lt (hI.steady h) hdue
        have hnow : w.background.1.now = w.now := w.background_now
        obtain ⟨fuel, rest⟩ := reaches hI hbound (hI.background h) (events ++ w.background.2)
        have hstep := Session.step?_of_pending p s events hpending
        rw [if_pos hdue] at hstep
        exact ⟨fuel + 1, by rwa [Session.run_of_step hstep]⟩
      | false =>
        obtain ⟨t, ht, hstep⟩ :=
          Session.step?_of_pending_of_not_due p s events hpending hdue
        obtain ⟨fuel, rest⟩ := reaches hI hbound (hI.advance t h ht) events
        exact ⟨fuel + 1, by rwa [Session.run_of_step hstep]⟩
termination_by (bound - turns.length, progress.remaining w, w.chores)
decreasing_by
  · refine .right _ (.left _ _ ?_)
    have hnow := ht.now_lt
    have hwait := ht.le_nextTick
    simp only [hprogress, Progress.remaining, World.advance]
    omega
  · simp only [hprogress, Progress.remaining, hnow]
    exact .right _ (.right _ hchores)
  · refine .left _ _ ?_
    rw [List.length_append, List.length_singleton]
    omega

/-- An activity with a bound on its turns that is alone in a steady world comes to its end. -/
theorem ends_solo (hsteady : ∀ {turns progress w}, p.Solo w₀ turns progress w → w.Steady)
    (hbound : ∀ {turns progress w}, p.Solo w₀ turns progress w → turns.length ≤ bound) :
    ∃ fuel₀ turns r w events, p.Solo w₀ turns (.finished r) w ∧
      ∀ fuel ≥ fuel₀, Session.run fuel (.alone p w₀) = ⟨w, [⟨p, .finished r⟩], events⟩ := by
  have hcarried : p.Carried (fun _ => False) (p.Solo w₀) :=
    ⟨fun h _ hs => h.turn hs, .background, fun t h ht => h.advance t ht.le_nextTick, hsteady⟩
  obtain ⟨fuel₀, turns, progress, w, events, hsolo, hend, hrun⟩ :=
    hcarried.reaches hbound .start []
  obtain ⟨r, rfl⟩ := hend.resolve_left id
  refine ⟨fuel₀, turns, r, w, events, hsolo, fun fuel hfuel => ?_⟩
  obtain ⟨more, rfl⟩ := Nat.exists_eq_add_of_le hfuel
  calc Session.run (fuel₀ + more) (.alone p w₀)
      = Session.run more (Session.run fuel₀ (.alone p w₀)) := Session.run_add ..
    _ = Session.run more ⟨w, [⟨p, .finished r⟩], events⟩ := congrArg _ hrun
    _ = ⟨w, [⟨p, .finished r⟩], events⟩ := Session.run_of_step_none Session.step?_of_finished _

/-- So it does on one of its courses among others, whatever is kept of the world on the way. -/
theorem ends_alone {P : World → Prop} (hkept : World.Kept p P) (hsteady : ∀ {w}, P w → w.Steady)
    (hbound : ∀ {turns progress w}, p.Course w₀ turns progress w → turns.length ≤ bound)
    (hw₀ : P w₀) : ∃ fuel₀ turns r w events, p.Course w₀ turns (.finished r) w ∧ P w ∧
      ∀ fuel ≥ fuel₀, Session.run fuel (.alone p w₀) = ⟨w, [⟨p, .finished r⟩], events⟩ := by
  obtain ⟨fuel₀, turns, r, w, events, hsolo, hrun⟩ :=
    ends_solo (fun h => hsteady (h.kept hkept hw₀)) (fun h => hbound h.course)
  exact ⟨fuel₀, turns, r, w, events, hsolo.course, hsolo.kept hkept hw₀, hrun⟩

end Activity

end Resilience
