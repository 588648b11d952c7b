import Mathlib.Data.List.Induction
import Resilience.Proofs.Cache.Life
import Resilience.Proofs.Cancellation.Waits

/-!
# How long the sweeping task lives

The sweeping task counts an interval from the present on two occasions : when it begins, and when it
handles a tick more than five milliseconds late (`Expiring.countsFromNow`). If the clock does not
reach that far then the task ends, and nothing is swept any more. As long as no stop is requested it
ends for no other reason (`Life.isRunning_iff`) ; in particular it lives where an interval from the
present is still on the clock.

The setters leave an interval that is too long as it is, so that the task of a cache with such an
interval ends in its first turn (`Life.not_running_of_longest_interval`). A lifetime that is too
long ends thirty years from the present instead (`Time.after`).
-/

namespace Resilience.Cache

variable {V : Type}

namespace Expiring

variable {c : Expiring V} {now : Nat}

/-- Whether a turn at `now` counts an interval from the present. -/
def countsFromNow (c : Expiring V) (now : Nat) : Bool :=
  match c.sweeper with
  | .created => true
  | .ticking s => s + Sweeper.tolerance < now
  | .stopped | .failed => false

/-- A task begins to live if the clock has room for its first tick. -/
theorem isAlive_fromNow_iff {interval : Nat} :
    (Sweeper.fromNow interval now).isAlive = true ↔ now + interval < Time.limit := by
  unfold Sweeper.fromNow
  split <;> simp_all [Sweeper.isAlive]

/-- A task lives on with a tick in time, and with a late one if the clock has room for the next. -/
theorem isAlive_rescheduled_iff {s interval : Nat} :
    (Sweeper.rescheduled s interval now).isAlive = true ↔
      (s + Sweeper.tolerance < now → now + interval < Time.limit) := by
  by_cases hlate : s + Sweeper.tolerance < now
  · rw [Sweeper.rescheduled, if_pos hlate, Time.after?]
    by_cases hlimit : now + interval < Time.limit
    · simp [hlimit, Sweeper.isAlive]
    · simp [hlimit, hlate, Sweeper.isAlive]
  · rw [Sweeper.rescheduled, if_neg hlate]
    simp [hlate, Sweeper.isAlive]

/-- A tick that is late is due. -/
theorem not_late_of_not_due {s : Nat} (hs : c.sweeper = .ticking s) (hdue : c.isDue now = false) :
    ¬s + Sweeper.tolerance < now := by
  have htick := Time.tick_lt s
  have hfired : now < Time.tick s := by
    rw [← Time.fired_eq_false_iff]
    simp only [isDue, hs, Bool.or_eq_false_iff] at hdue
    exact hdue.2
  simp only [Sweeper.tolerance, Time.millisecond] at *
  omega

/-- One turn. -/
theorem isAlive_sweep_iff (hstop : c.stopRequested = false) :
    (c.sweep now).1.sweeper.isAlive = true ↔ c.sweeper.isAlive = true ∧
      (c.countsFromNow now = true → now + c.config.sweepInterval < Time.limit) := by
  rcases c.sweep_cases now with ⟨hs, -, heq⟩ | ⟨hstopped, -⟩ | ⟨s, hs, -, -, heq⟩ | ⟨hdue, -, heq⟩
  · rw [heq, isAlive_fromNow_iff]
    simp [countsFromNow, hs, Sweeper.isAlive]
  · rw [hstop] at hstopped
    cases hstopped
  · rw [heq, isAlive_rescheduled_iff]
    simp [countsFromNow, hs, Sweeper.isAlive]
  · rw [heq]
    cases hs : c.sweeper with
    | created => simp [isDue, hs] at hdue
    | ticking s => simp [countsFromNow, hs, not_late_of_not_due hs hdue]
    | stopped | failed => simp [Sweeper.isAlive]

end Expiring

namespace Life

theorem now_le_act (l : Life V) (o : Occurrence V) : l.now ≤ (l.act o).now := by
  cases o with
  | passage d =>
    simp only [act]
    split
    · exact Nat.le_add_right _ _
    · exact Nat.le_refl _
  | use _ | turn | shutdown => exact Nat.le_refl _

theorem now_le_run (l : Life V) (occurrences : List (Occurrence V)) :
    l.now ≤ (l.run occurrences).now :=
  run_of_act (P := fun l' => l.now ≤ l'.now) (fun l' o h => Nat.le_trans h (l'.now_le_act o))
    (Nat.le_refl _) occurrences

/-- Only a turn makes a difference to the task. -/
theorem isAlive_act_iff {l : Life V} {o : Occurrence V} (hstop : l.cache.stopRequested = false) :
    (l.act o).cache.sweeper.isAlive = true ↔ l.cache.sweeper.isAlive = true ∧
      (o = .turn → l.cache.countsFromNow l.now = true →
        l.now + l.cache.config.sweepInterval < Time.limit) := by
  cases o with
  | turn => simpa [act] using Expiring.isAlive_sweep_iff hstop
  | use u => simp [act, Expiring.use_eq]
  | shutdown => simp [act, Expiring.shutdown, hstop]
  | passage d =>
    simp only [act]
    split <;> simp

/-- The turns so far that counted from their present stayed on the clock. -/
def StaysOnClock (l : Life V) (interval : Nat) (occurrences : List (Occurrence V)) : Prop :=
  ∀ before after, occurrences = before ++ .turn :: after →
    (l.run before).cache.countsFromNow (l.run before).now = true →
      (l.run before).now + interval < Time.limit

/-- One more turn has to stay on the clock if it counts from its present. -/
theorem staysOnClock_snoc_iff {l : Life V} {interval : Nat} {occurrences : List (Occurrence V)}
    {o : Occurrence V} : l.StaysOnClock interval (occurrences ++ [o]) ↔
      l.StaysOnClock interval occurrences ∧ (o = .turn →
        (l.run occurrences).cache.countsFromNow (l.run occurrences).now = true →
          (l.run occurrences).now + interval < Time.limit) := by
  constructor
  · intro h
    refine ⟨fun before after hsplit => h before (after ++ [o]) (by simp [hsplit]), ?_⟩
    rintro rfl
    exact h occurrences [] rfl
  · rintro ⟨hbefore, hlast⟩ before after hsplit
    rcases snoc_eq_append_cons hsplit with ⟨rfl, rfl⟩ | ⟨rest, rfl, rfl⟩
    · rw [List.append_inj_left' hsplit rfl] at hlast
      exact hlast rfl
    · exact hbefore before rest rfl

/-- The induction is on the last occurrence : whether there is a request to stop is known of the
whole, and so of what stands before. -/
theorem isAlive_run_iff {l : Life V} (halive : l.cache.sweeper.isAlive = true)
    {occurrences : List (Occurrence V)}
    (hstop : (l.run occurrences).cache.stopRequested = false) :
    (l.run occurrences).cache.sweeper.isAlive = true ↔
      l.StaysOnClock l.cache.config.sweepInterval occurrences := by
  induction occurrences using List.reverseRecOn with
  | nil => simpa [run, StaysOnClock] using halive
  | append_singleton occurrences o ih =>
    have hsnoc : l.run (occurrences ++ [o]) = (l.run occurrences).act o := run_append ..
    rw [hsnoc] at hstop ⊢
    have hstop' := stopRequested_act hstop
    have hconfig : (l.run occurrences).cache.config = l.cache.config :=
      run_of_act (P := fun l' => l'.cache.config = l.cache.config)
        (fun l' o h => (l'.config_act o).1.trans h) rfl occurrences
    rw [isAlive_act_iff hstop', ih hstop', hconfig, staysOnClock_snoc_iff]

/-- As long as a cache has not been asked to stop, its sweeping task runs exactly if every turn that
counted an interval from the present, the first one or one more than five milliseconds late, stayed
on the clock. So it runs wherever an interval from the present is still on the clock, whatever has
happened before. -/
theorem isRunning_iff (config : Config) (start : Nat) (occurrences : List (Occurrence V)) :
    let interval := config.coerced.sweepInterval
    let l := (opened config start : Life V).run occurrences
    l.cache.stopRequested = false →
      (l.cache.isRunning = true ↔
        (opened config start : Life V).StaysOnClock interval occurrences) ∧
      (l.now + interval < Time.limit → l.cache.isRunning = true) := by
  intro interval l hstop
  have hattached : l.cache.attached = true :=
    run_of_act (P := fun l' => l'.cache.attached = true)
      (fun l' o h => (l'.config_act o).2.trans h) rfl occurrences
  have hiff : l.cache.isRunning = true ↔
      (opened config start : Life V).StaysOnClock interval occurrences := by
    rw [Expiring.isRunning, hattached, Bool.true_and]
    exact isAlive_run_iff rfl hstop
  refine ⟨hiff, fun hlimit => hiff.2 ?_⟩
  rintro before after rfl -
  have hle : ((opened config start : Life V).run before).now ≤ l.now := by
    show _ ≤ ((opened config start : Life V).run (before ++ .turn :: after)).now
    rw [run_append]
    exact now_le_run _ _
  omega

/-- A cache that is swept every second by default, with a turn that is a second late. -/
theorem isRunning_iff_of_late_turn :
    let occurrences : List (Occurrence Nat) := [.turn, .passage (2 * Time.second), .turn]
    let l := (opened {} 0 : Life Nat).run occurrences
    l.cache.stopRequested = false ∧ l.now + ({} : Config).coerced.sweepInterval < Time.limit ∧
      l.cache.sweeper = .ticking (3 * Time.second) ∧ l.cache.isRunning = true := by
  intro occurrences l
  have hstop : l.cache.stopRequested = false := by decide +kernel
  have hlimit : l.now + ({} : Config).coerced.sweepInterval < Time.limit := by decide +kernel
  exact ⟨hstop, hlimit, by decide +kernel, (isRunning_iff {} 0 occurrences hstop).2 hlimit⟩

/-- An interval as long as durations get passes the setter, and the first turn of the task ends
it. -/
theorem not_running_of_longest_interval :
    let config := ({} : Config).withSweepInterval Time.longest
    let l := (opened config 0 : Life Nat).run [.turn]
    l.cache.stopRequested = false ∧ l.cache.sweeper = .failed ∧ l.cache.isRunning = false := by
  decide +kernel

end Life

end Resilience.Cache
