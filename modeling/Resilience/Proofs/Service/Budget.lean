import Resilience.Proofs.Activity.Alone
import Resilience.Proofs.Retry.Counters
import Resilience.Proofs.Service.Meaning

/-!
# The budget of a look-up

How long a look-up takes and how often it calls the resolver, whatever others do while it waits. Two
bounds carry this, and neither depends on how the waits grow. The attempts are counted, so that
there are only so many turns (`Service.Tries`). And the look-up waits for nothing but the end of a
pause that its own handle ends at the deadline, so that the clock, which stops at every timer, does
not pass the first whole millisecond from there ; the handle is heeded before every attempt, so that
none begins at the deadline or after it.

The resolver takes no time.
-/

namespace Resilience

open Retry (Stage)

namespace Service

/-! ## The retry -/

/-- How the retry within a look-up can stand after so many calls of the resolver. The second number
bounds its turns. -/
inductive Tries (s : Service) (handle : Cancellation) : Nat → Nat →
    Progress (Stage Resolving) (Except (Retry.Error IoError) String) → World → Prop
  | opening {w} : Tries s handle 0 0 (.running .opening) w
  | checking {f w} (hf : f.attempt ≤ s.retry.maxRetries) :
      Tries s handle f.attempt.toNat (4 * f.attempt.toNat + 1) (.running (.checking f)) w
  | calling {f w} (hf : f.attempt ≤ s.retry.maxRetries)
      (hlive : handle.check w.tokens w.now = none) :
      Tries s handle f.attempt.toNat (4 * f.attempt.toNat + 2) (.running (.calling f none)) w
  | pausing {f wait w} (hf : f.attempt < s.retry.maxRetries) (hwait : wait.handle? = some handle) :
      Tries s handle (f.attempt.toNat + 1) (4 * f.attempt.toNat + 3) (.running (.pausing f wait)) w
  | sleeping {f wait w} (hf : f.attempt < s.retry.maxRetries) (hwait : wait.handle? = some handle) :
      Tries s handle (f.attempt.toNat + 1) (4 * f.attempt.toNat + 4)
        (.waiting (.pausing f wait) wait) w
  | finished {c r w} (hc : c ≤ s.retry.maxRetries.toNat + 1) :
      Tries s handle c (4 * s.retry.maxRetries.toNat + 5) (.finished r) w

/-- How a look-up that began in the world `w₀` can stand, whatever others did, after so many calls
of the resolver. The second number bounds its turns. -/
inductive Spends (s : Service) (w₀ : World) : Nat → Nat →
    Progress LookState (Except Error Found) → World → Prop
  | opening : Spends s w₀ 0 0 (.running none) w₀
  | admission (w) : Spends s w₀ 0 1 (.running (some (handleIn w₀, none))) w
  | reading (w) : Spends s w₀ 0 2 (.running (some (handleIn w₀, some none))) w
  | running {c n stage w} (h : Tries s (handleIn w₀) c n (.running stage) w) :
      Spends s w₀ c (n + 3) (.running (inRetry (handleIn w₀) stage)) w
  | waiting {c n stage wait w} (h : Tries s (handleIn w₀) c n (.waiting stage wait) w) :
      Spends s w₀ c (n + 3) (.waiting (inRetry (handleIn w₀) stage) wait) w
  | finished {c r w} (hc : c ≤ s.retry.maxRetries.toNat + 1) :
      Spends s w₀ c (4 * s.retry.maxRetries.toNat + 9) (.finished r) w

/-- How a turn is counted that was taken in the world `w` after `c` calls and left `w'` : nothing is
called, or the resolver is, under a handle that has not ended. -/
inductive Counts (handle : Cancellation) (w : World) (c : Nat) : Nat → World → Prop
  | quiet {w'} (hnow : w'.now = w.now) (hcalls : w'.calls = w.calls) : Counts handle w c c w'
  | call {w'} (hnow : w'.now = w.now) (hcalls : w'.calls = w.now :: w.calls)
      (hlive : handle.check w.tokens w.now = none) : Counts handle w c (c + 1) w'

variable {s : Service} {key : String} {handle : Cancellation} {w₀ w : World} {c n : Nat}

/-- What follows a failed attempt is the end of the retry, or a pause that the handle may end. -/
theorem tries_afterFailure {f : Retry.Frame} (hf : f.attempt ≤ s.retry.maxRetries)
    (worth : IoError → Bool) (e : IoError) (w : World) :
    ∃ n, Tries s handle (f.attempt.toNat + 1) n
        (Retry.afterFailure s.retry.coerced handle worth s.samples f e w :
          Turn (Stage Resolving) (Except (Retry.Error IoError) String)).progress w ∧
      4 * f.attempt.toNat + 2 < n := by
  have hle := UInt32.le_iff_toNat_le.1 hf
  have hend : f.attempt.toNat + 1 ≤ s.retry.maxRetries.toNat + 1 := Nat.succ_le_succ hle
  have hlt : 4 * f.attempt.toNat + 2 < 4 * s.retry.maxRetries.toNat + 5 := by omega
  rw [Retry.afterFailure_progress, Retry.Config.coerced_maxRetries]
  split
  · exact ⟨_, .finished hend, hlt⟩
  · rename_i hlast
    split
    · exact ⟨_, .finished hend, hlt⟩
    · split
      · have hbefore : f.attempt < s.retry.maxRetries := by
          have hne := mt UInt32.toNat_inj.1 hlast
          exact UInt32.lt_iff_toNat_lt.2 (by omega)
        exact ⟨_, .pausing hbefore rfl, Nat.lt_succ_self _⟩
      · exact ⟨_, .finished hend, hlt⟩

/-- A pause that has ended leads to the next attempt or to the end of the retry. -/
theorem tries_slept (key : String) {f : Retry.Frame} {wait : Wait}
    (hf : f.attempt < s.retry.maxRetries) (hpoll : wait.poll w.tokens w.now ≠ .pending) :
    ∃ n, Tries s handle (f.attempt.toNat + 1) n
        ((s.retrying key handle).turn (.pausing f wait) w).upshot.1 w ∧
      ((s.retrying key handle).turn (.pausing f wait) w).upshot.2 = w ∧
      4 * f.attempt.toNat + 4 < n := by
  have hlt := UInt32.lt_iff_toNat_lt.1 hf
  simp only [retrying, Retry.runClassified, Retry.execute]
  cases hcase : wait.poll w.tokens w.now with
  | pending => exact absurd hcase hpoll
  | interrupted reason => exact ⟨_, .finished (by omega), rfl, by omega⟩
  | «over» =>
    have hnext : (f.attempt + 1).toNat = f.attempt.toNat + 1 := by
      have := s.retry.maxRetries.toNat_lt
      rw [UInt32.toNat_add]
      exact Nat.mod_eq_of_lt (show f.attempt.toNat + 1 < 2 ^ 32 by omega)
    have hf' : f.attempt + 1 ≤ s.retry.maxRetries := by
      rw [UInt32.le_iff_toNat_le, hnext]
      exact hlt
    let next : Retry.Frame := { f with attempt := f.attempt + 1, backoff := f.backoff.grow }
    have hchecking : Tries s handle (f.attempt.toNat + 1) (4 * (f.attempt.toNat + 1) + 1)
        (.running (.checking next)) w := hnext ▸ .checking (f := next) hf'
    exact ⟨_, hchecking, rfl, by omega⟩

/-- A turn of the retry is counted, and leaves fewer turns. -/
theorem Tries.turn (key : String)
    {progress : Progress (Stage Resolving) (Except (Retry.Error IoError) String)}
    (h : Tries s handle c n progress w) {stage : Stage Resolving}
    (hs : progress.ready? w = some stage) :
    ∃ c' n', Tries s handle c' n' ((s.retrying key handle).turn stage w).upshot.1
        ((s.retrying key handle).turn stage w).upshot.2 ∧ n < n' ∧
      Counts handle w c c' ((s.retrying key handle).turn stage w).upshot.2 := by
  cases h with
  | opening =>
    cases hs
    exact ⟨_, _, .checking (UInt32.zero_le ..), Nat.lt_succ_self _, .quiet rfl rfl⟩
  | @checking f _ hf =>
    cases hs
    have hle := UInt32.le_iff_toNat_le.1 hf
    simp only [retrying, Retry.runClassified, Retry.execute]
    cases hcheck : handle.check w.tokens w.now with
    | none =>
      let called : Retry.Frame := { f with calls := f.calls + 1 }
      exact ⟨_, _, .calling (f := called) hf hcheck, Nat.lt_succ_self _, .quiet rfl rfl⟩
    | some reason => exact ⟨_, _, .finished (by omega), by omega, .quiet rfl rfl⟩
  | @calling f _ hf hlive =>
    cases hs
    have hle := UInt32.le_iff_toNat_le.1 hf
    rw [upshot_calling]
    unfold Turn.upshot
    rw [Retry.afterAttempt_world]
    cases s.resolver w.calls.length key with
    | ok value => exact ⟨_, _, .finished (by omega), by omega, .call rfl rfl hlive⟩
    | error e =>
      obtain ⟨n', htries, hlt⟩ := tries_afterFailure hf isRetryable e w.called
      exact ⟨_, n', htries, hlt, .call rfl rfl hlive⟩
  | @pausing f wait _ hf hwait =>
    cases hs
    by_cases hpoll : wait.poll w.tokens w.now = .pending
    · simp only [retrying, Retry.runClassified, Retry.execute, hpoll]
      exact ⟨_, _, .sleeping hf hwait, Nat.lt_succ_self _, .quiet rfl rfl⟩
    · obtain ⟨n', htries, hworld, hlt⟩ := tries_slept key hf hpoll
      rw [hworld]
      exact ⟨_, n', htries, by omega, .quiet rfl rfl⟩
  | @sleeping f wait _ hf hwait =>
    obtain ⟨hpoll, rfl⟩ : wait.poll w.tokens w.now ≠ .pending ∧ Stage.pausing f wait = stage := by
      simpa [Progress.ready?] using hs
    obtain ⟨n', htries, hworld, hlt⟩ := tries_slept key hf hpoll
    rw [hworld]
    exact ⟨_, n', htries, hlt, .quiet rfl rfl⟩
  | finished => cases hs

/-- The calls and turns of a retry are bounded wherever it stands. -/
theorem Tries.bounds {progress : Progress (Stage Resolving) (Except (Retry.Error IoError) String)}
    (h : Tries s handle c n progress w) :
    c ≤ s.retry.maxRetries.toNat + 1 ∧ n ≤ 4 * s.retry.maxRetries.toNat + 5 := by
  cases h with
  | opening => omega
  | checking hf | calling hf =>
    have := UInt32.le_iff_toNat_le.1 hf
    omega
  | pausing hf | sleeping hf =>
    have := UInt32.lt_iff_toNat_lt.1 hf
    omega
  | finished hc => omega

/-! ## The look-up -/

namespace Spends

variable {progress : Progress LookState (Except Error Found)}

/-- The calls and turns of a look-up are bounded as well. -/
theorem bounds (h : Spends s w₀ c n progress w) :
    c ≤ s.retry.maxRetries.toNat + 1 ∧ n ≤ 4 * s.retry.maxRetries.toNat + 9 := by
  cases h with
  | opening | admission | reading => omega
  | running h | waiting h =>
    have := h.bounds
    omega
  | finished hc => omega

/-- A turn of the retry is one of the look-up, which stores the value if there is one. -/
theorem of_tries (key : String) {stage : Stage Resolving} {c' n' : Nat}
    (h : Tries s (handleIn w₀) c' n' ((s.retrying key (handleIn w₀)).turn stage w).upshot.1
      ((s.retrying key (handleIn w₀)).turn stage w).upshot.2)
    (hcounts : Counts (handleIn w₀) w c c' ((s.retrying key (handleIn w₀)).turn stage w).upshot.2)
    (hn : n < n') :
    ∃ n'', Spends s w₀ c' n'' ((s.lookup key).turn (inRetry (handleIn w₀) stage) w).upshot.1
        ((s.lookup key).turn (inRetry (handleIn w₀) stage) w).upshot.2 ∧ n + 3 < n'' ∧
      Counts (handleIn w₀) w c c'
        ((s.lookup key).turn (inRetry (handleIn w₀) stage) w).upshot.2 := by
  have hbounds := h.bounds
  rw [upshot_inRetry]
  generalize ((s.retrying key (handleIn w₀)).turn stage w).upshot = u at h hcounts
  obtain ⟨stage' | ⟨stage', wait⟩ | _ | value, w'⟩ := u
  · exact ⟨_, .running h, by omega, hcounts⟩
  · exact ⟨_, .waiting h, by omega, hcounts⟩
  · exact ⟨_, .finished hbounds.1, by omega, hcounts⟩
  · refine ⟨_, .finished hbounds.1, by omega, ?_⟩
    have hnow := w'.store_now key value none
    have hcalls := w'.calls_store key value none
    cases hcounts with
    | quiet hnow' hcalls' => exact .quiet (hnow.trans hnow') (hcalls.trans hcalls')
    | call hnow' hcalls' hlive => exact .call (hnow.trans hnow') (hcalls.trans hcalls') hlive

/-- A turn of the look-up is counted, and leaves fewer turns. -/
theorem turn (key : String) (h : Spends s w₀ c n progress w) {state : LookState}
    (hs : progress.ready? w = some state) :
    ∃ c' n', Spends s w₀ c' n' ((s.lookup key).turn state w).upshot.1
        ((s.lookup key).turn state w).upshot.2 ∧ n < n' ∧
      Counts (handleIn w₀) w c c' ((s.lookup key).turn state w).upshot.2 := by
  cases h with
  | opening =>
    cases hs
    by_cases hkey : key.utf8ByteSize ≤ keyLimit
    · rw [turn_opening s key hkey]
      exact ⟨_, _, .admission _, Nat.lt_succ_self _, .quiet rfl rfl⟩
    · rw [turn_of_long s key (Nat.not_le.1 hkey)]
      exact ⟨_, _, .finished (Nat.zero_le _), by omega, .quiet rfl rfl⟩
  | admission =>
    cases hs
    by_cases hgrants : w.Grants
    · rw [turn_admission_of_grants s key _ hgrants]
      exact ⟨_, _, .reading _, Nat.lt_succ_self _, .quiet rfl rfl⟩
    · rw [turn_admission_of_not_grants s key _ hgrants]
      exact ⟨_, _, .finished (Nat.zero_le _), by omega, .quiet rfl rfl⟩
  | reading =>
    cases hs
    cases hlive : w.live? key with
    | some value =>
      rw [turn_reading_of_live s key _ hlive]
      exact ⟨_, _, .finished (Nat.zero_le _), by omega, .quiet rfl rfl⟩
    | none =>
      rw [turn_reading_of_not_live s key _ hlive]
      exact ⟨_, _, .running .opening, Nat.lt_succ_self _, .quiet rfl rfl⟩
  | running h =>
    cases hs
    obtain ⟨c', n', htries, hn, hcounts⟩ := h.turn key rfl
    exact ⟨c', of_tries key htries hcounts hn⟩
  | @waiting _ _ stage wait _ h =>
    obtain ⟨hpoll, rfl⟩ : wait.poll w.tokens w.now ≠ .pending ∧
        inRetry (handleIn w₀) stage = state := by
      simpa [Progress.ready?] using hs
    have hready : (.waiting stage wait : Progress (Stage Resolving)
        (Except (Retry.Error IoError) String)).ready? w = some stage := by
      simp [Progress.ready?, hpoll]
    obtain ⟨c', n', htries, hn, hcounts⟩ := h.turn key hready
    exact ⟨c', of_tries key htries hcounts hn⟩
  | finished => cases hs

/-- A look-up waits for nothing but a pause that its handle may end, whatever becomes of the world
meanwhile. -/
theorem others {state : LookState} {wait : Wait} (h : Spends s w₀ c n (.waiting state wait) w)
    (w' : World) :
    Spends s w₀ c n (.waiting state wait) w' ∧ wait.handle? = some (handleIn w₀) := by
  cases h with
  | waiting h =>
    cases h with
    | sleeping hf hwait => exact ⟨.waiting (.sleeping hf hwait), hwait⟩

end Spends

/-! ## A whole look-up -/

/-- The instant at which the handle of a look-up ends that begins in the world `w`. -/
def deadlineIn (w : World) : Nat := Time.after w.now lookupTimeout

/-- Every wait under the look-up's handle ends with its deadline. -/
theorem nextTick_le_of_handle {wait : Wait} (h : wait.handle? = some (handleIn w₀)) :
    wait.nextTick ≤ Time.tick (deadlineIn w₀) := by
  have hdeadline : wait.handle?.bind Cancellation.deadline? = some (deadlineIn w₀) := by
    rw [h]
    rfl
  rw [Wait.nextTick_of_deadline hdeadline]
  exact Time.tick_mono (Nat.min_le_left _ _)

/-- The account of a look-up : how it stands, after so many calls and at most so many turns. -/
structure Account (s : Service) (key : String) (w₀ : World) (turns : List (LookState × World))
    (progress : Progress LookState (Except Error Found)) (w : World) (c n : Nat) : Prop where
  stands : Spends s w₀ c n progress w
  started : w₀.now ≤ w.now
  inTime : w.now ≤ Time.tick (deadlineIn w₀)
  length_le : turns.length ≤ n
  calls : ((s.lookup key).callTimes turns).length = c
  callsInTime : ∀ t ∈ (s.lookup key).callTimes turns, w₀.now ≤ t ∧ t < deadlineIn w₀

theorem Account.turn {turns : List (LookState × World)}
    {progress : Progress LookState (Except Error Found)} (h : Account s key w₀ turns progress w c n)
    {state : LookState} (hs : progress.ready? w = some state) :
    ∃ c' n', Account s key w₀ (turns ++ [(state, w)]) ((s.lookup key).turn state w).progress
      ((s.lookup key).turn state w).world c' n' := by
  obtain ⟨c', n', hstands, hn, hcounts⟩ := h.stands.turn key hs
  have hlength : (turns ++ [(state, w)]).length ≤ n' := by
    have := h.length_le
    rw [List.length_append, List.length_singleton]
    omega
  refine ⟨c', n', ?_⟩
  simp only [Turn.upshot] at hstands hcounts
  cases hcounts with
  | quiet hnow hcalls =>
    have htimes : (s.lookup key).callTimes (turns ++ [(state, w)]) =
        (s.lookup key).callTimes turns := by
      simp [Activity.callTimes_append, Activity.calls, hcalls]
    exact ⟨hstands, hnow ▸ h.started, hnow ▸ h.inTime, hlength, htimes ▸ h.calls,
      htimes ▸ h.callsInTime⟩
  | call hnow hcalls hlive =>
    have hbefore := (Cancellation.check_eq_none_iff.1 hlive).2 (deadlineIn w₀) rfl
    have htimes : (s.lookup key).callTimes (turns ++ [(state, w)]) =
        (s.lookup key).callTimes turns ++ [w.now] := by
      simp [Activity.callTimes_append, Activity.calls, hcalls]
    refine ⟨hstands, hnow ▸ h.started, hnow ▸ h.inTime, hlength, ?_, ?_⟩
    · rw [htimes, List.length_append, List.length_singleton, h.calls]
    · intro t ht
      rw [htimes] at ht
      rcases List.mem_append.1 ht with ht | ht
      · exact h.callsInTime t ht
      · rw [List.mem_singleton.1 ht]
        exact ⟨h.started, hbefore⟩

/-- Every look-up has an account, whatever others do. -/
theorem account_of_course {turns : List (LookState × World)}
    {progress : Progress LookState (Except Error Found)}
    (h : (s.lookup key).Course w₀ turns progress w) :
    ∃ c n, Account s key w₀ turns progress w c n := by
  induction h with
  | start =>
    exact ⟨0, 0, .opening, Nat.le_refl _, Nat.le_trans (Time.le_after _ _) (Time.le_tick _),
      Nat.le_refl _, rfl, nofun⟩
  | turn _ hs ih =>
    obtain ⟨c, n, haccount⟩ := ih
    exact haccount.turn hs
  | others _ hw hpunctual ih =>
    obtain ⟨c, n, haccount⟩ := ih
    obtain ⟨hstands, hhandle⟩ := haccount.stands.others _
    have hlimit := Nat.max_le.2 ⟨haccount.inTime, nextTick_le_of_handle hhandle⟩
    exact ⟨c, n, hstands, Nat.le_trans haccount.started hw.now_le, Nat.le_trans hpunctual hlimit,
      haccount.length_le, haccount.calls, haccount.callsInTime⟩

/-- What a look-up does to the cache leaves its settings as they are. -/
theorem kept_steady (s : Service) (key : String) : World.Kept (s.lookup key) World.Steady where
  turn state w hw := by
    show ((s.lookup key).turn state w).upshot.2.Steady
    obtain _ | ⟨handle, _ | _ | stage⟩ := state
    · by_cases hkey : key.utf8ByteSize ≤ keyLimit
      · rw [turn_opening s key hkey]
        exact hw
      · rw [turn_of_long s key (Nat.not_le.1 hkey)]
        exact hw
    · by_cases hgrants : w.Grants
      · rw [turn_admission_of_grants s key handle hgrants]
        exact hw
      · rw [turn_admission_of_not_grants s key handle hgrants]
        exact hw
    · cases hlive : w.live? key with
      | some value =>
        rw [turn_reading_of_live s key handle hlive]
        exact hw.of_map rfl fun _ => rfl
      | none =>
        rw [turn_reading_of_not_live s key handle hlive]
        exact hw.of_map rfl fun _ => rfl
    · have hretry : ((s.retrying key handle).turn stage w).upshot.2.Steady := by
        rcases s.retrying_world key handle stage w with h | h <;> rw [Turn.upshot, h]
        · exact hw
        · exact hw
      rw [upshot_inRetry]
      generalize ((s.retrying key handle).turn stage w).upshot = u at hretry
      obtain ⟨_ | _ | _ | value, w'⟩ := u
      · exact hretry
      · exact hretry
      · exact hretry
      · show (w'.store key value none).1.Steady
        rw [World.store_fst]
        exact hretry.of_map rfl fun _ => rfl
  background h := World.steady_background h
  advance t h := h

/-- A look-up stays within its budget. Whatever others do while it waits, the resolver is called at
most as often as the settings allow, never at the deadline or after it, and the clock does not pass
the first whole millisecond from the deadline on. Alone, in a world whose sweep of the cache does
not come again at once, the look-up comes to its end. The deadline is five seconds after the look-up
began, as far as the clock reaches. -/
theorem lookup_within_budget (s : Service) (hretry : s.retry.maxRetries.toNat + 1 < UInt32.size)
    (key : String) (w₀ : World) :
    (w₀.now + lookupTimeout < Time.limit → deadlineIn w₀ = w₀.now + lookupTimeout) ∧
      (∀ turns progress w, (s.lookup key).Course w₀ turns progress w →
        w₀.now ≤ w.now ∧ w.now ≤ Time.tick (deadlineIn w₀) ∧
          ((s.lookup key).callTimes turns).length ≤ s.retry.maxAttempts.toNat ∧
          (∀ t ∈ (s.lookup key).callTimes turns, w₀.now ≤ t ∧ t < deadlineIn w₀) ∧
          turns.length ≤ 4 * s.retry.maxRetries.toNat + 9) ∧
      (w₀.Steady → ∃ fuel₀ turns r w events, (s.lookup key).Course w₀ turns (.finished r) w ∧
        ∀ fuel ≥ fuel₀, Session.run fuel (.alone (s.lookup key) w₀) =
          ⟨w, [⟨s.lookup key, .finished r⟩], events⟩) := by
  have hturns : ∀ {turns progress w}, (s.lookup key).Course w₀ turns progress w →
      turns.length ≤ 4 * s.retry.maxRetries.toNat + 9 := by
    intro turns progress w h
    obtain ⟨c, n, haccount⟩ := account_of_course h
    exact Nat.le_trans haccount.length_le haccount.stands.bounds.2
  refine ⟨fun hclock => ?_, fun turns progress w h => ?_, fun hsteady => ?_⟩
  · rw [deadlineIn, Time.after, Time.after?, if_pos hclock, Option.getD_some]
  · obtain ⟨c, n, haccount⟩ := account_of_course h
    refine ⟨haccount.started, haccount.inTime, ?_, haccount.callsInTime, hturns h⟩
    have hcalls := haccount.stands.bounds.1
    have hmax : s.retry.maxAttempts.toNat = s.retry.maxRetries.toNat + 1 := by
      rw [Retry.Config.toNat_maxAttempts]
      exact Nat.min_eq_left (Nat.le_of_lt_succ hretry)
    rw [haccount.calls, hmax]
    exact hcalls
  · obtain ⟨fuel₀, turns, r, w, events, hcourse, -, hrun⟩ :=
      Activity.ends_alone (s.kept_steady key) id hturns hsteady
    exact ⟨fuel₀, turns, r, w, events, hcourse, hrun⟩

/-- A resolver that always fails, with waits that shrink. -/
theorem lookup_within_budget_of_shrinking_waits :
    let s : Service :=
      { retry := { maxRetries := 9, factor := 0.5 }
        resolver := fun _ _ => .error ⟨.timedOut, none⟩
        timeOfDay := fun _ => "" }
    let w₀ := (World.ofSettings {}).1
    ∃ fuel₀ turns r w events,
      (∀ fuel ≥ fuel₀, Session.run fuel (.alone (s.lookup "k") w₀) =
        ⟨w, [⟨s.lookup "k", .finished r⟩], events⟩) ∧
      w.now ≤ 5 * Time.second ∧ ((s.lookup "k").callTimes turns).length ≤ 10 ∧
      ∀ t ∈ (s.lookup "k").callTimes turns, t < 5 * Time.second := by
  intro s w₀
  obtain ⟨hdeadline, hcourses, hend⟩ := lookup_within_budget s (by decide) "k" w₀
  obtain ⟨fuel₀, turns, r, w, events, hcourse, hrun⟩ := hend (World.steady_ofSettings {})
  obtain ⟨-, hnow, hcalls, htimes, -⟩ := hcourses _ _ _ hcourse
  have hfive : deadlineIn w₀ = 5 * Time.second := (hdeadline (by decide)).trans (by decide)
  have htick : Time.tick (5 * Time.second) = 5 * Time.second := by decide
  rw [hfive, htick] at hnow
  rw [hfive] at htimes
  exact ⟨fuel₀, turns, r, w, events, hrun, hnow, hcalls, fun t ht => (htimes t ht).2⟩

end Service

end Resilience
