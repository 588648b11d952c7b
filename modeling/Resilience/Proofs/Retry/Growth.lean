import Mathlib.Algebra.Order.BigOperators.Group.Finset
import Resilience.Proofs.Activity.Timely
import Resilience.Proofs.Retry.Reports

/-!
# The growth of waits

Without chance the waits of a retry are the clamped sequence (`Config.clampedWait`) : the first
wait, and then each the product of the last one and the factor, or the longest wait where the
product is longer or no duration. A retry that goes on failing under a handle that never ends asks
for these waits, one after each attempt but the last, and begins the next attempt at the end of
each, at the next whole millisecond (`Plan.clamped_schedule`).

That no wait is above the longest one is owed to the coercion, which raises the longest wait to the
first (`Config.clampedWait_le`).
-/

namespace Resilience

namespace Retry

variable {ε α : Type}

/-! ## The sequence -/

namespace Config

variable (c : Config)

theorem coerced_initialBackoff : c.coerced.initialBackoff = max c.initialBackoff Time.shortest :=
  rfl

theorem coerced_maxBackoff :
    c.coerced.maxBackoff = max c.maxBackoff (max c.initialBackoff Time.shortest) := rfl

/-- The product of a wait and the factor, if it is a duration. -/
def product? (wait : Nat) : Option Nat :=
  Number.Seconds.ofFloat? (Number.Seconds.toFloat wait * c.coerced.factor)

/-- The wait after the attempt `j` without chance. -/
def clampedWait : Nat → Nat
  | 0 => c.coerced.initialBackoff
  | j + 1 =>
    match c.product? (clampedWait j) with
    | some wait => min wait c.coerced.maxBackoff
    | none => c.coerced.maxBackoff

theorem clampedWait_succ_of_none {j : Nat} (h : c.product? (c.clampedWait j) = none) :
    c.clampedWait (j + 1) = c.coerced.maxBackoff := by
  rw [clampedWait, h]

theorem clampedWait_le (j : Nat) : c.clampedWait j ≤ c.coerced.maxBackoff := by
  cases j with
  | zero =>
    rw [clampedWait, coerced_initialBackoff, coerced_maxBackoff]
    exact Nat.le_max_right _ _
  | succ j =>
    rw [clampedWait]
    split
    · exact Nat.min_le_right _ _
    · exact Nat.le_refl _

end Config

namespace Plan

/-- Growing changes the wait alone. -/
theorem backoff_eq (p : Plan ε α) (j : Nat) : p.backoff j =
    { Backoff.ofConfig p.config.coerced with current := p.config.clampedWait j } := by
  induction j with
  | zero => rfl
  | succ j ih => rw [backoff, ih]; rfl

/-- Without chance the wait after an attempt is as it has grown. -/
theorem delay_eq_clampedWait {p : Plan ε α} (hjitter : (p.config.coerced.jitter == 0) = true)
    (j : Nat) : p.delay j = p.config.clampedWait j := by
  have hnone : ((p.backoff j).jitter == 0) = true := by
    rw [backoff_eq]
    exact hjitter
  rw [delay, Backoff.jittered, if_pos hnone, backoff_eq]

/-! ## The waits asked for -/

/-- The wait that begins. -/
def pauseBegun? : Progress (Trying ε α) (Except (Error ε) α) → Option Wait
  | .running (.pausing _ wait) => some wait
  | _ => none

variable [Described ε] {p : Plan ε α} {handle : Cancellation}

/-- The waits that begin in these turns. -/
def pausesBegun (p : Plan ε α) (handle : Cancellation) (turns : List (Trying ε α × World)) :
    List Wait :=
  turns.filterMap fun t => pauseBegun? ((p.under handle).turn t.1 t.2).progress

omit [Described ε] in
/-- A wait that begins is the next one of the schedule. -/
theorem Standing.pauseBegun {t₀ n : Nat} {m : Tally}
    {progress : Progress (Trying ε α) (Except (Error ε) α)} {w : World}
    (h : p.Standing handle t₀ m progress w) (hn : m.waits = n + (beginsPause progress).toNat) :
    (List.range m.waits).map (p.pause handle t₀) =
      (List.range n).map (p.pause handle t₀) ++ (pauseBegun? progress).toList := by
  cases h with
  | @pausing j =>
    obtain rfl : j = n := Nat.succ.inj hn
    rw [List.range_succ, List.map_append]
    rfl
  | _ =>
    rw [show _ = n from hn]
    exact (List.append_nil _).symm

/-- The waits of a retry are those of its schedule, in turn. -/
theorem pausesBegun_of_course {w₀ w : World} {turns : List (Trying ε α × World)}
    {progress : Progress (Trying ε α) (Except (Error ε) α)}
    (h : (p.under handle).Course w₀ turns progress w) :
    ∃ m, p.Standing handle w₀.now m progress w ∧ p.Ledger handle w₀.now m turns ∧
      p.pausesBegun handle turns = (List.range m.waits).map (p.pause handle w₀.now) := by
  induction h with
  | start => exact ⟨{}, .opening rfl, ⟨rfl, by simp, rfl, rfl, Nat.le_refl _⟩, rfl⟩
  | @turn turns _ s w _ hs ih =>
    obtain ⟨m, hstanding, hledger, hpauses⟩ := ih
    obtain ⟨m', hstanding', hturn⟩ := hstanding.turn hs
    refine ⟨m', hstanding', hledger.snoc hturn, ?_⟩
    rw [pausesBegun, List.filterMap_append, ← pausesBegun, hpauses,
      hstanding'.pauseBegun hturn.waits]
    rfl
  | others _ _ hpunctual ih =>
    obtain ⟨m, hstanding, hledger, hpauses⟩ := ih
    exact ⟨m, hstanding.others hpunctual, hledger, hpauses⟩

/-! ## How long the waits are -/

/-- How long the first `n` waits take together, each from the answer of an attempt to the start of
the next. -/
def waiting (p : Plan ε α) (t₀ n : Nat) : Nat :=
  ∑ j ∈ Finset.range n, (p.startAt t₀ (j + 1) - p.answerAt j (p.startAt t₀ j))

omit [Described ε] in
/-- As far as the clock reaches, a wait takes what was asked for and less than a millisecond
more. -/
theorem startAt_succ_lt (p : Plan ε α) {t₀ j : Nat} (hclock : p.startAt t₀ (j + 1) < Time.limit) :
    p.startAt t₀ (j + 1) < p.answerAt j (p.startAt t₀ j) + p.delay j + Time.millisecond := by
  have hends := Nat.lt_of_le_of_lt (Time.le_tick _) hclock
  have hafter := Time.le_add_of_le_after (Nat.le_refl _) (.inl hends)
  have htick := Time.tick_lt (Time.after (p.answerAt j (p.startAt t₀ j)) (p.delay j))
  exact Nat.lt_of_lt_of_le htick (Nat.add_le_add_right hafter _)

omit [Described ε] in
/-- All waits together take at most so many times the longest one and a millisecond. -/
theorem waiting_le (hjitter : (p.config.coerced.jitter == 0) = true) {t₀ n : Nat}
    (hclock : p.startAt t₀ n < Time.limit) :
    p.waiting t₀ n ≤ n * (p.config.coerced.maxBackoff + Time.millisecond) := by
  have hwait : ∀ j ∈ Finset.range n, p.startAt t₀ (j + 1) - p.answerAt j (p.startAt t₀ j) ≤
      p.config.coerced.maxBackoff + Time.millisecond := by
    intro j hj
    have hreached := Nat.lt_of_le_of_lt (p.startAt_mono t₀ (Finset.mem_range.1 hj)) hclock
    have hlt := p.startAt_succ_lt hreached
    have hle := p.config.clampedWait_le j
    rw [delay_eq_clampedWait hjitter] at hlt
    omega
  calc p.waiting t₀ n
      ≤ (Finset.range n).card • (p.config.coerced.maxBackoff + Time.millisecond) :=
        Finset.sum_le_card_nsmul _ _ _ hwait
    _ = n * (p.config.coerced.maxBackoff + Time.millisecond) := by
        rw [Finset.card_range]
        rfl

/-- The clock does not go back behind a turn. -/
theorem now_le_of_course {w₀ w : World} {turns : List (Trying ε α × World)}
    {progress : Progress (Trying ε α) (Except (Error ε) α)}
    (h : (p.under handle).Course w₀ turns progress w) : ∀ t ∈ turns, t.2.now ≤ w.now := by
  induction h with
  | start => simp
  | @turn turns _ s w _ _ ih =>
    have hnow : ((p.under handle).turn s w).world.now = w.now := by
      rcases p.turn_world handle s w with hworld | hworld
      · rw [hworld]
      · rw [hworld]
        rfl
    rw [hnow]
    intro t ht
    rcases List.mem_append.1 ht with ht | ht
    · exact ih t ht
    · rw [List.mem_singleton.1 ht]
  | others _ hw _ ih => exact fun t ht => Nat.le_trans (ih t ht) hw.now_le

/-! ## The schedule -/

/-- Every attempt fails in a way that is worth another. -/
def FailsOn (p : Plan ε α) : Prop := ∀ j, ∃ e, (p.outcomes j).result = .error e ∧ p.worth e = true

omit [Described ε] in
/-- A retry that fails on stops with its last attempt. -/
theorem FailsOn.stops_iff (h : p.FailsOn) (j : Nat) : p.Stops j ↔ j = p.retries := by
  obtain ⟨e, hresult, hworth⟩ := h j
  rw [Stops, hresult]
  simp [hworth]

/-- The attempts and waits of a retry that began at `t₀`, made all attempts it may and waited
without chance : each wait is for the next duration of the clamped sequence, from the answer of an
attempt on, and the next attempt starts at the first whole millisecond from its end on. -/
structure FollowsClamped (p : Plan ε α) (handle : Cancellation) (t₀ : Nat)
    (turns : List (Trying ε α × World)) : Prop where
  attempts : (p.under handle).callTimes turns = (List.range (p.retries + 1)).map (p.startAt t₀)
  waits : p.pausesBegun handle turns = (List.range p.retries).map fun j =>
    handle.waitFor (p.answerAt j (p.startAt t₀ j)) (p.config.clampedWait j)
  resumed : ∀ j, p.startAt t₀ (j + 1) =
    Time.tick (handle.waitFor (p.answerAt j (p.startAt t₀ j)) (p.config.clampedWait j)).ends

/-- A retry that is not interrupted and fails on follows the clamped sequence to its end. -/
theorem follows_of_course (hjitter : (p.config.coerced.jitter == 0) = true) (hfails : p.FailsOn)
    (hdeadline : handle.deadline? = none) {w₀ w : World} {turns : List (Trying ε α × World)}
    {result : Except (Error ε) α} (h : (p.under handle).Course w₀ turns (.finished result) w)
    (hlive : w.tokens.isCancelled handle.token = false) :
    result = p.verdict p.retries ∧ p.FollowsClamped handle w₀.now turns := by
  obtain ⟨m, hstanding, hledger, hpauses⟩ := pausesBegun_of_course h
  obtain ⟨j, hstops, -, rfl, rfl⟩ :=
    hstanding.settled_of_live (Cancellation.check_eq_none_of_no_deadline hdeadline hlive)
  obtain rfl := (hfails.stops_iff j).1 hstops
  have hpause : p.pause handle w₀.now = fun j =>
      handle.waitFor (p.answerAt j (p.startAt w₀.now j)) (p.config.clampedWait j) :=
    funext fun j => by rw [pause, delay_eq_clampedWait hjitter]
  refine ⟨rfl, hledger.attempts, hpause ▸ hpauses, fun j => ?_⟩
  rw [startAt, delay_eq_clampedWait hjitter]

/-- Without chance, a retry whose attempts go on failing under a handle that never ends follows the
clamped sequence, whatever others do. No wait of the sequence is above the longest, and where a
product is no duration the next wait is the longest. So all waits together take at most as many
times the longest and a millisecond as there are retries, as far as the clock reaches. Alone such a
retry makes all its attempts. -/
theorem clamped_schedule (p : Plan ε α) (hjitter : (p.config.coerced.jitter == 0) = true)
    (hfails : p.FailsOn) (handle : Cancellation) (w₀ : World) :
    (∀ j, (p.backoff j).current = p.config.clampedWait j ∧
      p.config.clampedWait j ≤ p.config.coerced.maxBackoff ∧
      (p.config.product? (p.config.clampedWait j) = none →
        p.config.clampedWait (j + 1) = p.config.coerced.maxBackoff)) ∧
    (handle.deadline? = none → ∀ turns result w,
      (p.under handle).Course w₀ turns (.finished result) w →
      w.tokens.isCancelled handle.token = false →
      p.FollowsClamped handle w₀.now turns ∧
        (w.now < Time.limit → p.waiting w₀.now p.retries ≤
          p.retries * (p.config.coerced.maxBackoff + Time.millisecond))) ∧
    (w₀.Steady → handle.NeverEnds w₀ → ∃ fuel₀ turns w events,
      (p.under handle).Course w₀ turns (.finished (p.verdict p.retries)) w ∧
      w.tokens.isCancelled handle.token = false ∧
      ∀ fuel ≥ fuel₀, Session.run fuel (.alone (p.under handle) w₀) =
        ⟨w, [⟨p.under handle, .finished (p.verdict p.retries)⟩], events⟩) := by
  refine ⟨fun j => ⟨?_, p.config.clampedWait_le j, p.config.clampedWait_succ_of_none⟩,
    fun hdeadline turns result w h hlive => ?_, fun hsteady hhandle => ?_⟩
  · rw [backoff_eq]
  · obtain ⟨-, hfollows⟩ := follows_of_course hjitter hfails hdeadline h hlive
    refine ⟨hfollows, fun hclock => waiting_le hjitter (Nat.lt_of_le_of_lt ?_ hclock)⟩
    -- The last attempt has been made, so that the clock has come that far.
    have hlast : p.startAt w₀.now p.retries ∈ (p.under handle).callTimes turns := by
      rw [hfollows.attempts]
      exact List.mem_map_of_mem (List.mem_range.2 (Nat.lt_succ_self _))
    obtain ⟨t, ht, hnow⟩ := List.mem_map.1 hlast
    rw [← hnow]
    exact now_le_of_course h t (List.mem_filter.1 ht).1
  · obtain ⟨fuel₀, turns, result, w, events, hcourse, hw, hrun⟩ :=
      Activity.ends_alone (p.kept_alone handle) (fun h => h.1) length_turns_le ⟨hsteady, hhandle⟩
    obtain ⟨rfl, -⟩ := follows_of_course hjitter hfails hhandle.deadline hcourse hw.2.live
    exact ⟨fuel₀, turns, w, events, hcourse, hw.2.live, hrun⟩

/-- The first wait is raised to a millisecond, the next product is no duration, and a jitter below
zero is none. -/
def growsAtOnce : Plan IoError Nat where
  config :=
    { maxRetries := 2, initialBackoff := 0, maxBackoff := 5 * Time.millisecond, factor := 1e300,
      jitter := -1 }
  worth _ := true
  samples _ := 1
  outcomes _ := ⟨none, .error ⟨.timedOut, none⟩⟩

/-- A wait of one millisecond, and one of the longest. -/
theorem clamped_schedule_of_growsAtOnce :
    let handle : Cancellation := { token := ⟨[0]⟩ }
    let q := growsAtOnce.under handle
    growsAtOnce.config.product? Time.millisecond = none ∧ ∃ fuel₀ turns w events,
      (∀ fuel ≥ fuel₀, Session.run fuel (.alone q {}) =
        ⟨w, [⟨q, .finished (.error (.exhausted 3 3 ⟨.timedOut, none⟩))⟩], events⟩) ∧
      q.callTimes turns = [0, Time.millisecond, 6 * Time.millisecond] ∧
      growsAtOnce.pausesBegun handle turns =
        [handle.waitFor 0 Time.millisecond,
          handle.waitFor Time.millisecond (5 * Time.millisecond)] := by
  intro handle q
  have hjitter : (growsAtOnce.config.coerced.jitter == 0) = true := by decide +kernel
  have hfails : growsAtOnce.FailsOn := fun _ => ⟨_, rfl, rfl⟩
  obtain ⟨-, hcourses, hend⟩ := clamped_schedule growsAtOnce hjitter hfails handle {}
  obtain ⟨fuel₀, turns, w, events, hcourse, hlive, hrun⟩ :=
    hend (by rintro c ⟨⟩) ⟨rfl, rfl, by rintro c ⟨⟩⟩
  obtain ⟨hfollows, -⟩ := hcourses rfl _ _ _ hcourse hlive
  refine ⟨by decide +kernel, fuel₀, turns, w, events, hrun, ?_, ?_⟩
  · rw [hfollows.attempts]
    decide +kernel
  · rw [hfollows.waits]
    decide +kernel

end Plan

end Retry

end Resilience
