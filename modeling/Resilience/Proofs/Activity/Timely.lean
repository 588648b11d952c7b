import Mathlib.Order.MinMax
import Resilience.Proofs.Activity.Course
import Resilience.Proofs.Retry.Schedule
import Resilience.Rate.Execute

/-!
# Activities on a clock that timers move

A wait goes by timers, which fire at whole milliseconds, and the check of a handle by the exact
instant. On a clock that only timers move (`Activity.Timely`) this makes no difference to an
activity that sleeps under a handle and then checks it : a sleep that is over in its own time leaves
a handle that has not ended (`Activity.Timely.check_of_over`). The clock has not passed a timer of
the wait, so that it stands at a whole millisecond, and there a timer has fired exactly if its
instant has come (`Time.fired_iff_le`).

A retry sleeps between two attempts (`Retry.sleepsUnder_execute`), and who waits for a token sleeps
between two tries (`Rate.sleepsUnder_executeWithWait`).
-/

namespace Resilience

/-- At a whole millisecond a timer has fired exactly if its instant has come. -/
theorem Time.fired_iff_le {t now : Nat} (hnow : tick now = now) : fired t now = true ↔ t ≤ now :=
  ⟨le_of_fired, fun h => fired_iff.2 (hnow ▸ tick_mono h)⟩

/-! ## What a wait is over for -/

namespace Wait

variable {wait : Wait} {c : Cancellation} {ts : Tokens} {start now : Nat}

/-- A wait that ends by itself, on a clock that has passed none of its timers, leaves a handle that
has not ended. -/
theorem check_of_over (hhandle : wait.handle? = some c)
    (hstart : ∀ deadline, c.deadline? = some deadline → start < deadline)
    (hnow : now ≤ max start wait.nextTick) (h : wait.poll ts now = .over) :
    c.check ts now = none := by
  obtain ⟨hends, hhandles⟩ := poll_eq_over_iff.1 h
  obtain ⟨hlive, hahead⟩ := Cancellation.waited_eq_pending_iff.1 (hhandles c hhandle)
  refine Cancellation.check_eq_none_iff.2 ⟨hlive, fun deadline hdeadline => ?_⟩
  rcases le_max_iff.1 hnow with hle | hle
  · exact Nat.lt_of_le_of_lt hle (hstart deadline hdeadline)
  · -- The clock stands at the timer of the wait, and so at a whole millisecond.
    have htick : now = Time.tick wait.ends :=
      Nat.le_antisymm (hle.trans wait.nextTick_le) (Time.fired_iff.1 hends)
    have hwhole : Time.tick now = now := by rw [htick, Time.tick_tick]
    refine Nat.lt_of_not_le fun hreached => ?_
    have hfired := (Time.fired_iff_le hwhole).2 hreached
    exact absurd (hfired.symm.trans (hahead deadline hdeadline)) (by decide)

/-- A wait that is interrupted is so for the reason for which its handle has ended. -/
theorem check_of_interrupted {reason : Interruption} (hhandle : wait.handle? = some c)
    (h : wait.poll ts now = .interrupted reason) : c.check ts now = some reason := by
  obtain ⟨c', hc', hwaited⟩ := poll_eq_interrupted_iff.1 h
  cases hhandle.symm.trans hc'
  exact Cancellation.check_of_waited hwaited

end Wait

/-- The wait of a sleep of `d` that begins at `start`. -/
abbrev Cancellation.waitFor (c : Cancellation) (start d : Nat) : Wait :=
  ⟨Time.after start d, some c⟩

/-! ## A clock that timers move -/

namespace Activity

variable {σ α : Type}

/-- What an activity goes through on a clock that only timers move, and the worlds it has come
through. While it waits others may do at the present instant what they like, and call off what they
like. The clock stands still as long as the activity is ready for a turn, and when it moves, to
whatever timer comes first, it goes no further than to the next one of the wait. -/
inductive Timely (p : Activity σ α) (w₀ : World) : List World → Progress σ α → World → Prop
  | start : p.Timely w₀ [w₀] (.running p.start) w₀
  | turn {trail progress s w} (h : p.Timely w₀ trail progress w)
      (hs : progress.ready? w = some s) :
      p.Timely w₀ (trail ++ [(p.turn s w).world]) (p.turn s w).progress (p.turn s w).world
  | others {trail s wait w w'} (h : p.Timely w₀ trail (.waiting s wait) w) (hw : w.Becomes w')
      (hnow : w'.now = w.now) : p.Timely w₀ (trail ++ [w']) (.waiting s wait) w'
  | clock {trail s wait w} (t : Nat) (h : p.Timely w₀ trail (.waiting s wait) w)
      (hpending : wait.poll w.tokens w.now = .pending) (ht : t ≤ wait.nextTick) :
      p.Timely w₀ (trail ++ [w.advance t]) (.waiting s wait) (w.advance t)

end Activity

/-! ## Activities that sleep -/

section

variable {σ ε α : Type}

/-- The activity sleeps under the handle in the states that `asleep?` gives a wait for : it comes
to such a state as a sleep begins, and waits in it as long as that wait is pending. -/
structure Activity.SleepsUnder (p : Activity σ α) (c : Cancellation) (asleep? : σ → Option Wait) :
    Prop where
  awake : asleep? p.start = none
  begins : ∀ {s w s' wait}, (p.turn s w).progress = .running s' → asleep? s' = some wait →
    c.check (p.turn s w).world.tokens (p.turn s w).world.now = none ∧
      ∃ d, wait = c.waitFor (p.turn s w).world.now d
  stays : ∀ {s w s' wait wait'}, (p.turn s w).progress = .waiting s' wait' →
    asleep? s' = some wait → wait' = wait ∧ asleep? s = some wait ∧ (p.turn s w).world = w

/-- The wait of a sleep that has not passed any of its timers. -/
def Cancellation.OnTime (c : Cancellation) (wait : Wait) (w : World) : Prop :=
  wait.handle? = some c ∧ ∃ start, (∀ deadline, c.deadline? = some deadline → start < deadline) ∧
    w.now ≤ max start wait.nextTick

variable {p : Activity σ α} {c : Cancellation} {asleep? : σ → Option Wait} {w₀ w : World}
  {trail : List World} {progress : Progress σ α} {s : σ} {wait : Wait}

/-- An activity that sleeps under a handle sleeps in time, all along a timely course. -/
theorem Activity.Timely.onTime (hp : p.SleepsUnder c asleep?) (h : p.Timely w₀ trail progress w)
    (hs : progress.state? = some s) (hwait : asleep? s = some wait) :
    c.OnTime wait w ∧ ∀ s' wait', progress = .waiting s' wait' → wait' = wait := by
  induction h generalizing s with
  | start =>
    cases hs
    rw [hp.awake] at hwait
    cases hwait
  | @turn trail progress s₀ w _ hready ih =>
    cases hprogress : (p.turn s₀ w).progress with
    | finished r => simp [hprogress, Progress.state?] at hs
    | running s' =>
      obtain rfl : s' = s := by simpa [hprogress, Progress.state?] using hs
      obtain ⟨hcheck, d, rfl⟩ := hp.begins hprogress hwait
      have hstart := (Cancellation.check_eq_none_iff.1 hcheck).2
      exact ⟨⟨rfl, _, hstart, Nat.le_max_left _ _⟩, nofun⟩
    | waiting s' wait' =>
      obtain rfl : s' = s := by simpa [hprogress, Progress.state?] using hs
      obtain ⟨rfl, hbefore, hworld⟩ := hp.stays hprogress hwait
      rw [hworld]
      exact ⟨(ih (Progress.state?_of_ready hready) hbefore).1, by rintro _ _ ⟨⟩; rfl⟩
  | others _ _ hnow ih =>
    obtain ⟨⟨hhandle, start, hstart, hle⟩, hsame⟩ := ih hs hwait
    exact ⟨⟨hhandle, start, hstart, hnow ▸ hle⟩, hsame⟩
  | clock t _ _ ht ih =>
    obtain ⟨⟨hhandle, start, hstart, hle⟩, hsame⟩ := ih hs hwait
    obtain rfl := hsame _ _ rfl
    exact ⟨⟨hhandle, start, hstart, Nat.max_le.2 ⟨hle, ht.trans (Nat.le_max_right _ _)⟩⟩, hsame⟩

/-- When a sleep is over in its own time, the check that follows finds that the handle has not
ended. -/
theorem Activity.Timely.check_of_over (hp : p.SleepsUnder c asleep?)
    (h : p.Timely w₀ trail progress w) (hs : progress.state? = some s)
    (hwait : asleep? s = some wait) (hpoll : wait.poll w.tokens w.now = .over) :
    c.check w.tokens w.now = none := by
  obtain ⟨hhandle, start, hstart, hnow⟩ := (h.onTime hp hs hwait).1
  exact Wait.check_of_over hhandle hstart hnow hpoll

namespace Retry

/-- The wait in which a retry pauses. -/
def Stage.pause? : Stage σ → Option Wait
  | pausing _ wait => some wait
  | _ => none

/-- A retry that goes on after an attempt goes on to sleep, and then its handle has not ended. -/
theorem pausing_of_afterAttempt [Described ε] {config : Config} {handle : Cancellation}
    {worth : ε → Bool} {samples : Nat → Float} {f : Frame} {result : Except ε α} {w : World}
    {progress : Progress (Stage σ) (Except (Error ε) α)}
    (h : (afterAttempt config handle worth samples f result w).progress = progress) :
    (∃ r, progress = .finished r) ∨ handle.check w.tokens w.now = none ∧
      ∃ d, progress = .running (.pausing f (handle.waitFor w.now d)) := by
  subst h
  cases result with
  | ok a => exact .inl ⟨_, rfl⟩
  | error e =>
    rw [afterAttempt, afterFailure_progress]
    split
    · exact .inl ⟨_, rfl⟩
    · split
      · exact .inl ⟨_, rfl⟩
      · split <;> rename_i hcheck
        · exact .inr ⟨hcheck, _, rfl⟩
        · exact .inl ⟨_, rfl⟩

/-- A retry pauses between two attempts, and nowhere else, for a sleep. -/
theorem sleepsUnder_execute [Described ε] (config : Config) (handle : Cancellation)
    (worth : ε → Bool) (samples : Nat → Float) (op : Nat → Activity σ (Except ε α)) :
    (execute config handle worth samples op).SleepsUnder handle Stage.pause? where
  awake := rfl
  begins := by
    intro s w s' wait hprogress hwait
    cases s with
    | opening =>
      cases hprogress
      cases hwait
    | checking f =>
      simp only [execute] at hprogress
      split at hprogress <;> cases hprogress
      cases hwait
    | pausing f wait =>
      simp only [execute] at hprogress
      split at hprogress <;> cases hprogress
      cases hwait
    | calling f inner =>
      simp only [execute] at hprogress ⊢
      generalize (op (f.calls - 1)).turn inner w = t at hprogress ⊢
      rcases t.inside_cases (.calling f) (afterAttempt config.coerced handle worth samples f) with
        ⟨_, hrunning⟩ | ⟨_, _, hwaiting⟩ | ⟨result, hend⟩
      · cases hrunning.symm.trans hprogress
        cases hwait
      · cases hwaiting.symm.trans hprogress
      · obtain ⟨hafter, hworld⟩ := Prod.mk.inj hend
        rw [hworld, afterAttempt_world]
        rcases pausing_of_afterAttempt (hafter.symm.trans hprogress) with
          ⟨_, hfinished⟩ | ⟨hcheck, d, hpause⟩
        · cases hfinished
        · cases hpause
          cases hwait
          exact ⟨hcheck, d, rfl⟩
  stays := by
    intro s w s' wait wait' hprogress hwait
    cases s with
    | opening => cases hprogress
    | checking f =>
      simp only [execute] at hprogress
      split at hprogress <;> cases hprogress
    | pausing f wait =>
      simp only [execute] at hprogress ⊢
      cases hpoll : wait.poll w.tokens w.now <;> simp only [hpoll] at hprogress <;> cases hprogress
      cases hwait
      exact ⟨rfl, rfl, rfl⟩
    | calling f inner =>
      simp only [execute] at hprogress
      generalize (op (f.calls - 1)).turn inner w = t at hprogress
      rcases t.inside_cases (.calling f) (afterAttempt config.coerced handle worth samples f) with
        ⟨_, hrunning⟩ | ⟨_, _, hwaiting⟩ | ⟨result, hend⟩
      · cases hrunning.symm.trans hprogress
      · cases hwaiting.symm.trans hprogress
        cases hwait
      · have hafter := (Prod.mk.inj hend).1
        rcases pausing_of_afterAttempt (hafter.symm.trans hprogress) with ⟨_, hr⟩ | ⟨-, _, hpause⟩
        · cases hr
        · cases hpause

end Retry

namespace Rate

/-- The wait in which a waiter sleeps. -/
def Waiting.sleep? : Waiting σ → Option Wait
  | sleeping _ wait => some wait
  | _ => none

/-- A waiter that goes on to sleep does so under a handle that has not ended. -/
theorem sleeping_of_tryToken {handle : Cancellation} {op : Activity σ (Except ε α)} {since : Nat}
    {w : World} {progress : Progress (Waiting σ) (Except (Error ε) α)}
    (h : (tryToken handle op since w).progress = progress) :
    (∃ r, progress = .finished r) ∨ progress = .running (.running op.start) ∨
      handle.check (tryToken handle op since w).world.tokens
          (tryToken handle op since w).world.now = none ∧
        ∃ d, progress = .running (.sleeping since
          (handle.waitFor (tryToken handle op since w).world.now d)) := by
  subst h
  unfold tryToken
  cases handle.check w.tokens w.now with
  | some reason => exact .inl ⟨_, rfl⟩
  | none =>
    dsimp only
    split
    · exact .inr (.inl rfl)
    · generalize w.allow.2 = w'
      generalize (w'.limiter?.map (·.config.pollInterval)).getD 0 = d
      unfold Cancellation.sleep
      cases hcheck : handle.check w'.tokens w'.now with
      | some reason => exact .inl ⟨_, rfl⟩
      | none => exact .inr (.inr ⟨hcheck, d, rfl⟩)

/-- A waiter sleeps between two tries, and nowhere else. -/
theorem sleepsUnder_executeWithWait (handle : Cancellation) (op : Activity σ (Except ε α)) :
    (executeWithWait handle op).SleepsUnder handle Waiting.sleep? where
  awake := rfl
  begins := by
    intro s w s' wait hprogress hwait
    cases s with
    | opening =>
      simp only [executeWithWait] at hprogress
      split at hprogress <;> cases hprogress <;> cases hwait
    | trying since =>
      rcases sleeping_of_tryToken hprogress with ⟨r, hr⟩ | hrunning | ⟨hcheck, d, hsleep⟩
      · cases hr
      · cases hrunning
        cases hwait
      · cases hsleep
        cases hwait
        exact ⟨hcheck, d, rfl⟩
    | sleeping since wait =>
      simp only [executeWithWait] at hprogress
      split at hprogress <;> cases hprogress
      cases hwait
    | running inner =>
      rcases (op.turn inner w).inside_cases Waiting.running _ with
        ⟨_, hrunning⟩ | ⟨_, _, hwaiting⟩ | ⟨result, hend⟩
      · cases hrunning.symm.trans hprogress
        cases hwait
      · cases hwaiting.symm.trans hprogress
      · cases (Prod.mk.inj hend).1.symm.trans hprogress
  stays := by
    intro s w s' wait wait' hprogress hwait
    cases s with
    | opening =>
      simp only [executeWithWait] at hprogress
      split at hprogress <;> cases hprogress
    | trying since =>
      rcases sleeping_of_tryToken hprogress with ⟨r, hr⟩ | hrunning | ⟨-, d, hsleep⟩
      · cases hr
      · cases hrunning
      · cases hsleep
    | sleeping since wait =>
      simp only [executeWithWait] at hprogress ⊢
      cases hpoll : wait.poll w.tokens w.now <;> simp only [hpoll] at hprogress <;> cases hprogress
      cases hwait
      exact ⟨rfl, rfl, rfl⟩
    | running inner =>
      rcases (op.turn inner w).inside_cases Waiting.running _ with
        ⟨_, hrunning⟩ | ⟨_, _, hwaiting⟩ | ⟨result, hend⟩
      · cases hrunning.symm.trans hprogress
      · cases hwaiting.symm.trans hprogress
        cases hwait
      · cases (Prod.mk.inj hend).1.symm.trans hprogress

end Rate

end

end Resilience
