import Resilience.Proofs.Retry.Schedule

/-!
# Keeping to the schedule

`Plan.Standing` lists the ways in which a retry can stand that keeps to its schedule, each with a
`Tally` of what has been done so far. A retry keeps to its schedule in every turn
(`Plan.Standing.turn`), and whatever others do while it waits (`Plan.Standing.others`), until it
comes to its verdict or the handle interrupts it.
-/

namespace Resilience.Retry

variable {ε α : Type}

/-- What a retry has done so far. -/
structure Tally where
  attempts : Nat := 0
  waits : Nat := 0
  /-- How many outcomes the predicate could have been asked about. -/
  judged : Nat := 0
  /-- A bound on the turns. -/
  turns : Nat := 0

/-- Whether a retry stands at the beginning of a wait between two attempts. -/
def beginsPause : Progress (Trying ε α) (Except (Error ε) α) → Bool
  | .running (.pausing ..) => true
  | _ => false

namespace Plan

variable (p : Plan ε α)

/-- The turn's failure about which the predicate is asked, if it is : that of an attempt which is
not the last one allowed. -/
def judged? : Trying ε α × World → Option ε
  | (.calling f s, w) =>
    match ((operations p.outcomes (f.calls - 1)).turn s w).progress with
    | .finished (.error e) => if f.attempt = p.config.maxRetries then none else some e
    | _ => none
  | _ => none

/-- The failure of the attempt `j` about which the predicate is asked, if it is. -/
def judgedAfter (j : Nat) : Option ε := if j = p.retries then none else p.failure? j

variable {p}

theorem failures_min_succ {j : Nat} (hj : j ≤ p.retries) :
    p.failures (min (j + 1) p.retries) = p.failures j ++ (p.judgedAfter j).toList := by
  unfold judgedAfter
  by_cases hn : j = p.retries
  · rw [if_pos hn, Nat.min_eq_right (by omega), hn]
    simp
  · rw [if_neg hn, Nat.min_eq_left (by omega), failures_succ]

theorem judged?_answered {j : Nat} (hj : j ≤ p.retries) {s : Option (Wait × Except ε α)} {w : World}
    (h : ((operations p.outcomes j).turn s w).progress = .finished (p.outcomes j).result) :
    p.judged? (.calling (p.frame j (j + 1)) s, w) = p.judgedAfter j := by
  have hlast := attempt_eq_iff hj (j + 1)
  unfold judged? judgedAfter failure?
  simp only [frame, Nat.add_sub_cancel, h] at hlast ⊢
  cases (p.outcomes j).result with
  | ok a => simp
  | error e => simp only [hlast]

theorem judged?_pending {f : Frame} {wait : Wait} {result : Except ε α} {w : World}
    (h : wait.poll w.tokens w.now = .pending) :
    p.judged? (.calling f (some (wait, result)), w) = none := by
  simp only [judged?, operations, Activity.call, h]

variable [Described ε] (p : Plan ε α) (handle : Cancellation) (t₀ : Nat)

/-- The ways in which a retry can stand that began at `t₀` and keeps to its schedule. -/
inductive Standing : Tally → Progress (Trying ε α) (Except (Error ε) α) → World → Prop
  | opening {w} (hnow : w.now = t₀) : Standing {} (.running .opening) w
  | checking {j w} (hj : ∀ k < j, ¬p.Stops k) (hnow : w.now = p.startAt t₀ j) :
      Standing ⟨j, j, j, 6 * j + 1⟩ (.running (.checking (p.frame j j))) w
  | calling {j w} (hj : ∀ k < j, ¬p.Stops k) (hnow : w.now = p.startAt t₀ j)
      (hlive : handle.check w.tokens w.now = none) :
      Standing ⟨j, j, j, 6 * j + 2⟩ (.running (.calling (p.frame j (j + 1)) none)) w
  | answering {j w d} (hj : ∀ k < j, ¬p.Stops k) (hd : (p.outcomes j).delay? = some d)
      (hnow : w.now ≤ p.answerAt j (p.startAt t₀ j)) :
      Standing ⟨j + 1, j, j, 6 * j + 3⟩
        (.running (.calling (p.frame j (j + 1))
          (some (.pause (p.startAt t₀ j) d, (p.outcomes j).result)))) w
  | awaiting {j w d} (hj : ∀ k < j, ¬p.Stops k) (hd : (p.outcomes j).delay? = some d)
      (hnow : w.now ≤ p.answerAt j (p.startAt t₀ j)) :
      Standing ⟨j + 1, j, j, 6 * j + 4⟩
        (.waiting (.calling (p.frame j (j + 1))
          (some (.pause (p.startAt t₀ j) d, (p.outcomes j).result))) (.pause (p.startAt t₀ j) d)) w
  | pausing {j w} (hj : ∀ k ≤ j, ¬p.Stops k) (hnow : w.now ≤ p.startAt t₀ (j + 1)) :
      Standing ⟨j + 1, j + 1, j + 1, 6 * j + 5⟩
        (.running (.pausing (p.frame j (j + 1)) (p.pause handle t₀ j))) w
  | sleeping {j w} (hj : ∀ k ≤ j, ¬p.Stops k) (hnow : w.now ≤ p.startAt t₀ (j + 1)) :
      Standing ⟨j + 1, j + 1, j + 1, 6 * j + 6⟩
        (.waiting (.pausing (p.frame j (j + 1)) (p.pause handle t₀ j)) (p.pause handle t₀ j)) w
  | settled {j w} (hj : ∀ k < j, ¬p.Stops k) (hstops : p.Stops j) :
      Standing ⟨j + 1, j, min (j + 1) p.retries, 6 * p.retries + 7⟩ (.finished (p.verdict j)) w
  | interrupted {m reason w} (hm : ∀ k < m.attempts, ¬p.Stops k)
      (hcheck : handle.check w.tokens w.now = some reason) (hturns : m.turns = 6 * p.retries + 7) :
      Standing m (.finished (.error (.interrupted reason))) w

/-- How a turn in the world `w` that leads to `u` is counted, with `judged` the failure about which
the predicate is asked in it. -/
structure Counted (m m' : Tally) (w : World)
    (u : Progress (Trying ε α) (Except (Error ε) α) × World) (judged : Option ε) : Prop where
  /-- An attempt begins on schedule and under a handle that has not ended. -/
  attempt : u.2.calls ≠ w.calls →
    m'.attempts = m.attempts + 1 ∧ w.now = p.startAt t₀ m.attempts ∧
      handle.check w.tokens w.now = none
  noAttempt : u.2.calls = w.calls → m'.attempts = m.attempts
  waits : m'.waits = m.waits + (beginsPause u.1).toNat
  judged : p.failures m'.judged = p.failures m.judged ++ judged.toList
  turns : m.turns < m'.turns

variable {p handle t₀} {m m' : Tally} {w : World}

omit [Described ε] in
/-- A turn in which no attempt begins and the predicate is not asked. -/
theorem Counted.quiet {attempts waits judged turns turns' : Nat}
    {progress : Progress (Trying ε α) (Except (Error ε) α)} (h : beginsPause progress = false)
    (hturns : turns < turns') :
    p.Counted handle t₀ ⟨attempts, waits, judged, turns⟩ ⟨attempts, waits, judged, turns'⟩ w
      (progress, w) none where
  attempt hcalls := absurd rfl hcalls
  noAttempt _ := rfl
  waits := by rw [h]; rfl
  judged := by simp
  turns := hturns

/-- The turn that follows the attempt `j`, when its outcome has come on schedule in the world `u`,
keeps to the schedule. It may be the turn in which the attempt began, from the world `w`. -/
theorem standing_afterwards (handle : Cancellation) {j : Nat} (hj : ∀ k < j, ¬p.Stops k) {u : World}
    (hnow : u.now = p.answerAt j (p.startAt t₀ j)) :
    ∃ waits judged turns,
      p.Standing handle t₀ ⟨j + 1, waits, judged, turns⟩ (p.afterwards handle j u).progress u ∧
        waits = j + (beginsPause (p.afterwards handle j u).progress).toNat ∧
        p.failures judged = p.failures j ++ (p.judgedAfter j).toList ∧ 6 * j + 4 < turns := by
  have hle := le_retries hj
  by_cases hstops : p.Stops j
  · rw [afterwards_of_stops hj hstops]
    exact ⟨_, _, _, .settled hj hstops, rfl, failures_min_succ hle, by omega⟩
  · have hj' : ∀ k ≤ j, ¬p.Stops k := fun k hk =>
      (Nat.lt_or_eq_of_le hk).elim (hj k) (fun h => h ▸ hstops)
    have hlt := lt_retries hj'
    have hjudged : p.failures (j + 1) = p.failures j ++ (p.judgedAfter j).toList := by
      rw [judgedAfter, if_neg (Nat.ne_of_lt hlt), failures_succ]
    rw [afterwards_of_not_stops hj']
    cases hcheck : handle.check u.tokens u.now with
    | none =>
      have hpause : (⟨Time.after u.now (p.delay j), some handle⟩ : Wait) = p.pause handle t₀ j := by
        rw [pause, hnow]
      simp only [hpause]
      exact ⟨_, _, _, .pausing hj' (hnow ▸ p.answerAt_le_startAt t₀ j), rfl, hjudged,
        Nat.lt_succ_self _⟩
    | some reason =>
      exact ⟨j, j + 1, _, .interrupted (fun k hk => hj' k (Nat.le_of_lt_succ hk)) hcheck rfl, rfl,
        hjudged, by omega⟩

/-- A turn in which an answer comes. -/
theorem Standing.answered {j d turns : Nat} (hj : ∀ k < j, ¬p.Stops k)
    (hd : (p.outcomes j).delay? = some d) (hnow : w.now ≤ p.answerAt j (p.startAt t₀ j))
    (hpoll : (Wait.pause (p.startAt t₀ j) d).poll w.tokens w.now ≠ .pending)
    (hturns : turns ≤ 6 * j + 4) {s : Trying ε α}
    (hs : s = .calling (p.frame j (j + 1))
      (some (.pause (p.startAt t₀ j) d, (p.outcomes j).result))) :
    ∃ m', p.Standing handle t₀ m' ((p.under handle).turn s w).upshot.1
        ((p.under handle).turn s w).upshot.2 ∧
      p.Counted handle t₀ ⟨j + 1, j, j, turns⟩ m' w ((p.under handle).turn s w).upshot
        (p.judged? (s, w)) := by
  subst hs
  have hfired : w.now = p.answerAt j (p.startAt t₀ j) := by
    rw [answerAt_of_delay hd] at hnow ⊢
    exact Nat.le_antisymm hnow (Wait.tick_le_of_pause hpoll)
  have hjudged : p.judged? (.calling (p.frame j (j + 1))
      (some (.pause (p.startAt t₀ j) d, (p.outcomes j).result)), w) = p.judgedAfter j :=
    judged?_answered (le_retries hj) (operations_answered hpoll)
  obtain ⟨waits, judged, turns', hstanding, hwaits, hfailures, hlt⟩ :=
    standing_afterwards handle hj hfired
  rw [turn_answering, if_neg hpoll, hjudged]
  have hworld : (p.afterwards handle j w).world = w := afterwards_world j
  unfold Turn.upshot
  rw [hworld]
  exact ⟨_, hstanding, ⟨fun h => absurd rfl h, fun _ => rfl, hwaits, hfailures,
    Nat.lt_of_le_of_lt hturns hlt⟩⟩

/-- A turn in which a wait between two attempts has come to its end. -/
theorem Standing.slept {j turns : Nat} (hj : ∀ k ≤ j, ¬p.Stops k)
    (hnow : w.now ≤ p.startAt t₀ (j + 1))
    (hpoll : (p.pause handle t₀ j).poll w.tokens w.now ≠ .pending) (hturns : turns ≤ 6 * j + 6) :
    ∃ m', p.Standing handle t₀ m'
        ((p.under handle).turn (.pausing (p.frame j (j + 1)) (p.pause handle t₀ j)) w).upshot.1
        ((p.under handle).turn (.pausing (p.frame j (j + 1)) (p.pause handle t₀ j)) w).upshot.2 ∧
      p.Counted handle t₀ ⟨j + 1, j + 1, j + 1, turns⟩ m' w
        ((p.under handle).turn (.pausing (p.frame j (j + 1)) (p.pause handle t₀ j)) w).upshot
        none := by
  have hlt := lt_retries hj
  rw [turn_pausing]
  cases hcase : (p.pause handle t₀ j).poll w.tokens w.now with
  | pending => exact absurd hcase hpoll
  | «over» =>
    have hfired := Time.fired_iff.1 (Wait.poll_eq_over_iff.1 hcase).1
    have hstart : w.now = p.startAt t₀ (j + 1) := by
      rw [startAt] at hnow ⊢
      exact Nat.le_antisymm hnow hfired
    exact ⟨_, .checking (fun k hk => hj k (Nat.le_of_lt_succ hk)) hstart, .quiet rfl (by omega)⟩
  | interrupted reason =>
    obtain ⟨_, ⟨⟩, hwaited⟩ := Wait.poll_eq_interrupted_iff.1 hcase
    exact ⟨⟨j + 1, j + 1, j + 1, _⟩,
      .interrupted (fun k hk => hj k (Nat.le_of_lt_succ hk)) (Cancellation.check_of_waited hwaited)
        rfl,
      .quiet rfl (by omega)⟩

/-- A retry that keeps to its schedule keeps to it in its next turn. -/
theorem Standing.turn {progress : Progress (Trying ε α) (Except (Error ε) α)} {s : Trying ε α}
    (h : p.Standing handle t₀ m progress w) (hs : progress.ready? w = some s) :
    ∃ m', p.Standing handle t₀ m' ((p.under handle).turn s w).upshot.1
        ((p.under handle).turn s w).upshot.2 ∧
      p.Counted handle t₀ m m' w ((p.under handle).turn s w).upshot (p.judged? (s, w)) := by
  cases h with
  | opening hnow =>
    cases hs
    rw [turn_opening]
    exact ⟨_, .checking (by simp) hnow, .quiet rfl Nat.zero_lt_one⟩
  | @checking j _ hj hnow =>
    cases hs
    have hle := le_retries hj
    rw [turn_checking]
    cases hcheck : handle.check w.tokens w.now with
    | none => exact ⟨_, .calling hj hnow hcheck, .quiet rfl (Nat.lt_succ_self _)⟩
    | some reason => exact ⟨⟨j, j, j, _⟩, .interrupted hj hcheck rfl, .quiet rfl (by omega)⟩
  | @calling j _ hj hnow hlive =>
    cases hs
    have hcalls : w.called.calls ≠ w.calls := List.cons_ne_self _ _
    cases hd : (p.outcomes j).delay? with
    | none =>
      -- The operation answers at once, so that this turn already leads to what follows.
      have hanswer : w.called.now = p.answerAt j (p.startAt t₀ j) := by
        rw [answerAt_at_once hd]
        exact hnow
      obtain ⟨waits, judged, turns, hstanding, hwaits, hfailures, hlt⟩ :=
        standing_afterwards handle hj hanswer
      have hjudged : p.judged? (.calling (p.frame j (j + 1)) none, w) = p.judgedAfter j :=
        judged?_answered (le_retries hj) (operations_at_once hd)
      have hworld : (p.afterwards handle j w.called).world = w.called := afterwards_world j
      rw [turn_calling_at_once hd, hjudged]
      unfold Turn.upshot
      rw [hworld]
      exact ⟨_, hstanding, fun _ => ⟨rfl, hnow, hlive⟩, fun h => absurd h hcalls, hwaits, hfailures,
        Nat.lt_trans (by simp) hlt⟩
    | some d =>
      -- No outcome yet, so that there is nothing to ask the predicate about.
      have hjudged : p.judged? (.calling (p.frame j (j + 1)) none, w) = none := by
        simp [judged?, frame, operations, Activity.call, hd]
      have hanswer : w.called.now ≤ p.answerAt j (p.startAt t₀ j) :=
        Nat.le_trans (Nat.le_of_eq hnow) (p.le_answerAt j _)
      rw [turn_calling hd, hjudged, hnow]
      exact ⟨_, .answering hj hd hanswer, fun _ => ⟨rfl, hnow, hlive⟩, fun h => absurd h hcalls,
        rfl, by simp, Nat.lt_succ_self _⟩
  | @answering j _ d hj hd hnow =>
    cases hs
    by_cases hpoll : (Wait.pause (p.startAt t₀ j) d).poll w.tokens w.now = .pending
    · have hjudged : p.judged? (.calling (p.frame j (j + 1))
          (some (.pause (p.startAt t₀ j) d, (p.outcomes j).result)), w) = none :=
        judged?_pending hpoll
      rw [turn_answering, if_pos hpoll, hjudged]
      exact ⟨_, .awaiting hj hd hnow, .quiet rfl (Nat.lt_succ_self _)⟩
    · exact Standing.answered hj hd hnow hpoll (Nat.le_succ _) rfl
  | @awaiting j _ d hj hd hnow =>
    obtain ⟨hpoll, rfl⟩ : (Wait.pause (p.startAt t₀ j) d).poll w.tokens w.now ≠ .pending ∧
        .calling (p.frame j (j + 1))
          (some (.pause (p.startAt t₀ j) d, (p.outcomes j).result)) = s := by
      simpa [Progress.ready?] using hs
    exact Standing.answered hj hd hnow hpoll (Nat.le_refl _) rfl
  | @pausing j _ hj hnow =>
    cases hs
    by_cases hpoll : (p.pause handle t₀ j).poll w.tokens w.now = .pending
    · have hjudged : p.judged? (.pausing (p.frame j (j + 1)) (p.pause handle t₀ j), w) = none := rfl
      rw [turn_pausing, hpoll, hjudged]
      exact ⟨_, .sleeping hj hnow, .quiet rfl (Nat.lt_succ_self _)⟩
    · exact Standing.slept hj hnow hpoll (Nat.le_succ _)
  | @sleeping j _ hj hnow =>
    obtain ⟨hpoll, rfl⟩ : (p.pause handle t₀ j).poll w.tokens w.now ≠ .pending ∧
        .pausing (p.frame j (j + 1)) (p.pause handle t₀ j) = s := by
      simpa [Progress.ready?] using hs
    exact Standing.slept hj hnow hpoll (Nat.le_refl _)
  | settled => cases hs
  | interrupted => cases hs

omit [Described ε] in
/-- A retry that keeps to its schedule is not put off it by others, whatever they do while it
waits. -/
theorem Standing.others {s : Trying ε α} {wait : Wait} {w' : World}
    (h : p.Standing handle t₀ m (.waiting s wait) w)
    (hpunctual : w'.now ≤ max w.now wait.nextTick) :
    p.Standing handle t₀ m (.waiting s wait) w' := by
  cases h with
  | @awaiting j _ d hj hd hnow =>
    have hends : (Wait.pause (p.startAt t₀ j) d).ends = Time.after (p.startAt t₀ j) d := rfl
    have htick := Wait.nextTick_le (Wait.pause (p.startAt t₀ j) d)
    rw [hends, ← answerAt_of_delay hd] at htick
    exact .awaiting hj hd (Nat.le_trans hpunctual (Nat.max_le.2 ⟨hnow, htick⟩))
  | @sleeping j _ hj hnow =>
    have htick := Wait.nextTick_le (p.pause handle t₀ j)
    have hstart : Time.tick (p.pause handle t₀ j).ends = p.startAt t₀ (j + 1) := by
      rw [startAt, pause]
    rw [hstart] at htick
    exact .sleeping hj (Nat.le_trans hpunctual (Nat.max_le.2 ⟨hnow, htick⟩))

omit [Described ε] in
/-- A retry takes at most six turns for each attempt with the wait after it, and one more. -/
theorem Standing.turns_le {progress : Progress (Trying ε α) (Except (Error ε) α)}
    (h : p.Standing handle t₀ m progress w) : m.turns ≤ 6 * p.retries + 7 := by
  cases h with
  | opening => exact Nat.zero_le _
  | checking hj | calling hj | answering hj | awaiting hj =>
    have := le_retries hj
    dsimp only
    omega
  | pausing hj | sleeping hj =>
    have := lt_retries hj
    dsimp only
    omega
  | settled => exact Nat.le_refl _
  | interrupted _ _ hturns => exact Nat.le_of_eq hturns

omit [Described ε] in
/-- A retry has not gone beyond the first attempt that stops it. -/
theorem Standing.attempts_le {progress : Progress (Trying ε α) (Except (Error ε) α)}
    (h : p.Standing handle t₀ m progress w) {i : Nat} (hi : p.Stops i) : m.attempts ≤ i + 1 := by
  cases h with
  | opening => exact Nat.zero_le _
  | checking hj | calling hj =>
    exact Nat.le_succ_of_le (Nat.le_of_not_lt fun hlt => hj i hlt hi)
  | answering hj | awaiting hj | settled hj =>
    exact Nat.succ_le_succ (Nat.le_of_not_lt fun hlt => hj i hlt hi)
  | pausing hj | sleeping hj =>
    exact Nat.succ_le_succ (Nat.le_of_not_lt fun hlt => hj i (Nat.le_of_lt hlt) hi)
  | interrupted hm => exact Nat.le_succ_of_le (Nat.le_of_not_lt fun hlt => hm i hlt hi)

omit [Described ε] in
/-- A retry whose handle has not ended when it finishes has been stopped by an attempt. -/
theorem Standing.settled_of_live {result : Except (Error ε) α}
    (h : p.Standing handle t₀ m (.finished result) w)
    (hlive : handle.check w.tokens w.now = none) :
    ∃ i, p.Stops i ∧ (∀ k < i, ¬p.Stops k) ∧ result = p.verdict i ∧
      m = ⟨i + 1, i, min (i + 1) p.retries, 6 * p.retries + 7⟩ := by
  cases h with
  | @settled i _ hi hstops => exact ⟨i, hstops, hi, rfl, rfl⟩
  | interrupted _ hcheck _ => simp [hlive] at hcheck

omit [Described ε] in
/-- No attempt by itself concludes with an interruption. -/
theorem conclusion_ne_interrupted (p : Plan ε α) (attempts maxAttempts : UInt32) (i : Nat)
    (reason : Interruption) :
    p.conclusion attempts maxAttempts i ≠ .error (.interrupted reason) := by
  unfold conclusion
  split
  · simp
  · split <;> simp

omit [Described ε] in
/-- What interrupts a retry is its handle, which has ended by then. -/
theorem Standing.check_of_interrupted {reason : Interruption}
    (h : p.Standing handle t₀ m (.finished (.error (.interrupted reason))) w) :
    handle.check w.tokens w.now = some reason := by
  generalize hresult : Except.error (Error.interrupted reason) = result at h
  cases h with
  | @settled i => exact absurd hresult.symm (p.conclusion_ne_interrupted _ _ i reason)
  | interrupted _ hcheck _ =>
    cases hresult
    exact hcheck

/-! ## Along a course -/

/-- The turns of a retry that began at `t₀`, as its tally has them. -/
structure Ledger (p : Plan ε α) (handle : Cancellation) (t₀ : Nat) (m : Tally)
    (turns : List (Trying ε α × World)) : Prop where
  attempts : (p.under handle).callTimes turns = (List.range m.attempts).map (p.startAt t₀)
  live : ∀ t ∈ turns, (p.under handle).calls t = true → handle.check t.2.tokens t.2.now = none
  waits : (turns.countP fun t => beginsPause ((p.under handle).turn t.1 t.2).progress) = m.waits
  judged : turns.filterMap p.judged? = p.failures m.judged
  turns : turns.length ≤ m.turns

theorem Ledger.snoc {turns : List (Trying ε α × World)} {s : Trying ε α}
    (h : p.Ledger handle t₀ m turns)
    (hturn : p.Counted handle t₀ m m' w ((p.under handle).turn s w).upshot (p.judged? (s, w))) :
    p.Ledger handle t₀ m' (turns ++ [(s, w)]) where
  attempts := by
    rw [Activity.callTimes_append, h.attempts]
    by_cases hcalls : ((p.under handle).turn s w).world.calls = w.calls
    · rw [hturn.noAttempt hcalls]
      simp [Activity.calls, hcalls]
    · obtain ⟨hattempts, hnow, -⟩ := hturn.attempt hcalls
      rw [hattempts, List.range_succ, List.map_append]
      simp [Activity.calls, hcalls, hnow]
  live t ht hcalls := by
    rcases List.mem_append.1 ht with ht | ht
    · exact h.live t ht hcalls
    · cases List.mem_singleton.1 ht
      exact (hturn.attempt (of_decide_eq_true hcalls)).2.2
  waits := by
    rw [List.countP_append, h.waits, hturn.waits, List.countP_singleton]
    unfold Turn.upshot
    cases beginsPause ((p.under handle).turn s w).progress <;> rfl
  judged := by
    rw [List.filterMap_append, h.judged, hturn.judged]
    cases hjudged : p.judged? (s, w) <;> simp [hjudged]
  turns := by
    have := h.turns
    have := hturn.turns
    rw [List.length_append, List.length_singleton]
    omega

/-- Whatever others do, a retry keeps to its schedule all along. -/
theorem keeps_to_schedule {w₀ : World} {turns : List (Trying ε α × World)}
    {progress : Progress (Trying ε α) (Except (Error ε) α)}
    (h : (p.under handle).Course w₀ turns progress w) :
    ∃ m, p.Standing handle w₀.now m progress w ∧ p.Ledger handle w₀.now m turns := by
  induction h with
  | start => exact ⟨{}, .opening rfl, ⟨rfl, by simp, rfl, rfl, Nat.le_refl _⟩⟩
  | turn _ hs ih =>
    obtain ⟨m, hstanding, hledger⟩ := ih
    obtain ⟨m', hstanding', hturn⟩ := hstanding.turn hs
    exact ⟨m', hstanding', hledger.snoc hturn⟩
  | others _ _ hpunctual ih =>
    obtain ⟨m, hstanding, hledger⟩ := ih
    exact ⟨m, hstanding.others hpunctual, hledger⟩

/-- A retry takes at most six turns for each attempt, and a few more. -/
theorem length_turns_le {w₀ : World} {turns : List (Trying ε α × World)}
    {progress : Progress (Trying ε α) (Except (Error ε) α)}
    (h : (p.under handle).Course w₀ turns progress w) : turns.length ≤ 6 * p.retries + 7 := by
  obtain ⟨m, hstanding, hledger⟩ := keeps_to_schedule h
  exact Nat.le_trans hledger.turns hstanding.turns_le

end Plan

end Resilience.Retry
