import Mathlib.Order.Monotone.Basic
import Resilience.Activity.Operation
import Resilience.Proofs.Activity.Course
import Resilience.Retry.Execute

/-!
# The schedule of a retry

A `Plan` is what a retry is given besides its handle, for an operation whose outcomes are listed in
advance. It fixes everything but the end : the waits and the instants at which attempts start and
are answered (`Plan.startAt`, `Plan.answerAt`), the attempt after which there is no other
(`Plan.Stops`) and what it comes to (`Plan.verdict`).

Each kind of turn is computed once, for a frame that belongs to the schedule : what follows an
attempt (`Plan.afterwards_of_stops`, `Plan.afterwards_of_not_stops`) and what each stage makes of
its turn (`Plan.turn_checking` and those after it).
-/

namespace Resilience.Retry

variable {ε α : Type}

/-- Operations with these outcomes. -/
def operations (outcomes : Nat → Outcome ε α) (i : Nat) :
    Activity (Option (Wait × Except ε α)) (Except ε α) :=
  .call fun _ => outcomes i

/-- An operation makes no difference to the world but that it was called. -/
theorem operations_world (outcomes : Nat → Outcome ε α) (j : Nat) (s : Option (Wait × Except ε α))
    (w : World) :
    ((operations outcomes j).turn s w).world = w ∨
      ((operations outcomes j).turn s w).world = w.called := by
  unfold operations Activity.call
  dsimp only
  split
  · split <;> exact .inr rfl
  · split <;> exact .inl rfl

theorem operations_at_once {outcomes : Nat → Outcome ε α} {j : Nat}
    (h : (outcomes j).delay? = none) {w : World} :
    ((operations outcomes j).turn none w).progress = .finished (outcomes j).result := by
  simp only [operations, Activity.call, h]

theorem operations_answered {outcomes : Nat → Outcome ε α} {j : Nat} {w : World} {wait : Wait}
    {result : Except ε α} (h : wait.poll w.tokens w.now ≠ .pending) :
    ((operations outcomes j).turn (some (wait, result)) w).progress = .finished result := by
  simp only [operations, Activity.call]

/-- What a retry is given besides its handle. -/
structure Plan (ε α : Type) where
  config : Config
  worth : ε → Bool
  samples : Nat → Float
  outcomes : Nat → Outcome ε α

/-- States of a retry of operations with outcomes listed in advance. -/
abbrev Trying (ε α : Type) := Stage (Option (Wait × Except ε α))

/-- Coercion leaves the number of attempts as it is. -/
theorem Config.coerced_maxRetries (c : Config) : c.coerced.maxRetries = c.maxRetries := rfl

theorem Config.coerced_maxAttempts (c : Config) : c.coerced.maxAttempts = c.maxAttempts := rfl

section AfterFailure

variable [Described ε] {σ : Type} (c : Config) (handle : Cancellation) (worth : ε → Bool)
  (samples : Nat → Float) (f : Frame) (e : ε) (w : World)

theorem afterFailure_world :
    (afterFailure c handle worth samples f e w : Turn (Stage σ) (Except (Error ε) α)).world =
      w := by
  unfold afterFailure
  dsimp only
  split
  · rfl
  · split
    · rfl
    · split <;> rfl

theorem afterAttempt_world (result : Except ε α) :
    (afterAttempt c handle worth samples f result w :
      Turn (Stage σ) (Except (Error ε) α)).world = w := by
  cases result with
  | ok a => rfl
  | error e => exact afterFailure_world ..

/-- The last attempt goes before the predicate, and the predicate before the handle. -/
theorem afterFailure_progress :
    (afterFailure c handle worth samples f e w : Turn (Stage σ) (Except (Error ε) α)).progress =
      if f.attempt = c.maxRetries then
        .finished (.error (.exhausted f.ordinal c.maxAttempts e))
      else if worth e = false then .finished (.error (.aborted e))
      else
        match handle.check w.tokens w.now with
        | none =>
          .running (.pausing f
            ⟨Time.after w.now (f.backoff.jittered (samples f.attempt.toNat)), some handle⟩)
        | some reason => .finished (.error (.interrupted reason)) := by
  unfold afterFailure Cancellation.sleep
  dsimp only
  by_cases hlast : f.attempt = c.maxRetries
  · rw [if_pos hlast, if_pos hlast]
    rfl
  · rw [if_neg hlast, if_neg hlast]
    cases hworth : worth e with
    | false => rfl
    | true => cases handle.check w.tokens w.now <;> rfl

end AfterFailure

namespace Plan

/-- The retry under a handle. -/
def under [Described ε] (p : Plan ε α) (handle : Cancellation) :
    Activity (Trying ε α) (Except (Error ε) α) :=
  execute p.config handle p.worth p.samples (operations p.outcomes)

variable (p : Plan ε α)

/-! ## What is fixed in advance -/

/-- How often a failure may be followed by another attempt. -/
def retries : Nat := p.config.maxRetries.toNat

/-- The backoff in the attempt `j`. -/
def backoff : Nat → Backoff
  | 0 => .ofConfig p.config.coerced
  | j + 1 => (backoff j).grow

/-- The wait after the attempt `j`. -/
def delay (j : Nat) : Nat := (p.backoff j).jittered (p.samples j)

/-- When the attempt `j` is answered that starts at `t`. -/
def answerAt (j t : Nat) : Nat :=
  match (p.outcomes j).delay? with
  | none => t
  | some d => Time.tick (Time.after t d)

/-- When the attempt `j` starts if the first one starts at `t₀`. -/
def startAt (t₀ : Nat) : Nat → Nat
  | 0 => t₀
  | j + 1 => Time.tick (Time.after (p.answerAt j (startAt t₀ j)) (p.delay j))

/-- The wait after the attempt `j` if the first one starts at `t₀`. -/
def pause (handle : Cancellation) (t₀ j : Nat) : Wait :=
  ⟨Time.after (p.answerAt j (p.startAt t₀ j)) (p.delay j), some handle⟩

/-- Whether no attempt follows the attempt `j` : it succeeds, it is the last one allowed, or its
failure is rejected. -/
def Stops (j : Nat) : Prop :=
  match (p.outcomes j).result with
  | .ok _ => True
  | .error e => j = p.retries ∨ p.worth e = false

/-- What a retry comes to that stops after the attempt `j` : its value, or its failure, as the last
of so many attempts or as one that is not worth another. -/
def conclusion (attempts maxAttempts : UInt32) (j : Nat) : Except (Error ε) α :=
  match (p.outcomes j).result with
  | .ok a => .ok a
  | .error e =>
    if j = p.retries then .error (.exhausted attempts maxAttempts e) else .error (.aborted e)

/-- What the retry comes to if it stops after the attempt `j`. -/
def verdict (j : Nat) : Except (Error ε) α :=
  p.conclusion (p.config.maxRetries + 1) p.config.maxAttempts j

/-- The failure of the attempt `j`, if it fails. -/
def failure? (j : Nat) : Option ε :=
  match (p.outcomes j).result with
  | .ok _ => none
  | .error e => some e

/-- The failures of the first `m` attempts. -/
def failures (m : Nat) : List ε := (List.range m).filterMap p.failure?

theorem failures_succ (m : Nat) : p.failures (m + 1) = p.failures m ++ (p.failure? m).toList := by
  rw [failures, List.range_succ, List.filterMap_append]
  cases h : p.failure? m <;> simp [failures, h]

theorem stops_retries : p.Stops p.retries := by
  unfold Stops
  split
  · trivial
  · exact .inl rfl

theorem le_answerAt (j t : Nat) : t ≤ p.answerAt j t := by
  unfold answerAt
  split
  · exact Nat.le_refl t
  · exact Nat.le_trans (Time.le_after t _) (Time.le_tick _)

theorem answerAt_le_startAt (t₀ j : Nat) :
    p.answerAt j (p.startAt t₀ j) ≤ p.startAt t₀ (j + 1) := by
  rw [startAt]
  exact Nat.le_trans (Time.le_after _ _) (Time.le_tick _)

theorem startAt_mono (t₀ : Nat) : Monotone (p.startAt t₀) :=
  monotone_nat_of_le_succ fun j => Nat.le_trans (p.le_answerAt j _) (p.answerAt_le_startAt t₀ j)

variable {p}

theorem answerAt_at_once {j : Nat} (h : (p.outcomes j).delay? = none) (t : Nat) :
    p.answerAt j t = t := by
  rw [answerAt, h]

theorem answerAt_of_delay {j d : Nat} (h : (p.outcomes j).delay? = some d) (t : Nat) :
    p.answerAt j t = Time.tick (Time.after t d) := by
  rw [answerAt, h]

/-- No attempt is made after one that stops the retry. -/
theorem le_retries {j : Nat} (hj : ∀ k < j, ¬p.Stops k) : j ≤ p.retries :=
  Nat.le_of_not_lt fun h => hj _ h p.stops_retries

theorem lt_retries {j : Nat} (hj : ∀ k ≤ j, ¬p.Stops k) : j < p.retries :=
  Nat.lt_of_not_le fun h => hj _ h p.stops_retries

/-! ## Frames -/

variable (p)

/-- Where the retry is in the attempt `j`, with as many calls so far. -/
def frame (j calls : Nat) : Frame := ⟨UInt32.ofNat j, calls, p.backoff j⟩

variable {p}

theorem toNat_attempt {j : Nat} (hj : j ≤ p.retries) (calls : Nat) :
    (p.frame j calls).attempt.toNat = j :=
  UInt32.toNat_ofNat_of_lt' (Nat.lt_of_le_of_lt hj p.config.maxRetries.toNat_lt)

theorem attempt_eq_iff {j : Nat} (hj : j ≤ p.retries) (calls : Nat) :
    (p.frame j calls).attempt = p.config.maxRetries ↔ j = p.retries := by
  rw [← UInt32.toNat_inj, toNat_attempt hj]
  rfl

theorem frame_grow (j calls : Nat) :
    { p.frame j calls with
      attempt := (p.frame j calls).attempt + 1, backoff := (p.frame j calls).backoff.grow } =
      p.frame (j + 1) calls := by
  simp [frame, backoff, UInt32.ofNat_add]

/-! ## Turns -/

section Turns

variable [Described ε] {handle : Cancellation} {w : World}

/-- The turn that follows the attempt `j`. -/
def afterwards (p : Plan ε α) (handle : Cancellation) (j : Nat) (w : World) :
    Turn (Trying ε α) (Except (Error ε) α) :=
  afterAttempt p.config.coerced handle p.worth p.samples (p.frame j (j + 1)) (p.outcomes j).result w

theorem afterwards_world (j : Nat) : (p.afterwards handle j w).world = w := afterAttempt_world ..

/-- After an attempt that stops it a retry ends with its verdict. -/
theorem afterwards_of_stops {j : Nat} (hj : ∀ k < j, ¬p.Stops k) (h : p.Stops j) :
    (p.afterwards handle j w).progress = .finished (p.verdict j) := by
  have hlast := attempt_eq_iff (le_retries hj) (j + 1)
  unfold Stops at h
  unfold afterwards afterAttempt verdict conclusion
  cases hresult : (p.outcomes j).result with
  | ok a => rfl
  | error e =>
    simp only [hresult] at h ⊢
    rw [afterFailure_progress, Config.coerced_maxRetries, Config.coerced_maxAttempts]
    by_cases hn : j = p.retries
    · rw [if_pos (hlast.2 hn), if_pos hn, Frame.ordinal, hlast.2 hn]
    · rw [if_neg (mt hlast.1 hn), if_neg hn, if_pos (h.resolve_left hn)]

/-- After any other attempt a retry waits for the next one, unless its handle has ended. -/
theorem afterwards_of_not_stops {j : Nat} (hj : ∀ k ≤ j, ¬p.Stops k) :
    (p.afterwards handle j w).progress =
      match handle.check w.tokens w.now with
      | none => .running (.pausing (p.frame j (j + 1)) ⟨Time.after w.now (p.delay j), some handle⟩)
      | some reason => .finished (.error (.interrupted reason)) := by
  have hle := Nat.le_of_lt (lt_retries hj)
  have hlast := attempt_eq_iff hle (j + 1)
  have hstops := hj j (Nat.le_refl j)
  unfold Stops at hstops
  unfold afterwards afterAttempt
  cases hresult : (p.outcomes j).result with
  | ok a => simp [hresult] at hstops
  | error e =>
    simp only [hresult, not_or, Bool.not_eq_false] at hstops
    rw [afterFailure_progress, toNat_attempt hle, Config.coerced_maxRetries,
      if_neg (mt hlast.1 hstops.1), if_neg (by simp [hstops.2])]
    rfl

theorem turn_opening :
    ((p.under handle).turn .opening w).upshot = (.running (.checking (p.frame 0 0)), w) :=
  rfl

theorem turn_checking (j : Nat) :
    ((p.under handle).turn (.checking (p.frame j j)) w).upshot =
      match handle.check w.tokens w.now with
      | none => (.running (.calling (p.frame j (j + 1)) none), w)
      | some reason => (.finished (.error (.interrupted reason)), w) := by
  simp only [under, execute]
  cases handle.check w.tokens w.now <;> rfl

theorem turn_calling_at_once {j : Nat} (h : (p.outcomes j).delay? = none) :
    ((p.under handle).turn (.calling (p.frame j (j + 1)) none) w).upshot =
      (p.afterwards handle j w.called).upshot := by
  simp only [under, execute, operations, Activity.call, frame, Nat.add_sub_cancel, h]
  rfl

theorem turn_calling {j d : Nat} (h : (p.outcomes j).delay? = some d) :
    ((p.under handle).turn (.calling (p.frame j (j + 1)) none) w).upshot =
      (.running (.calling (p.frame j (j + 1)) (some (.pause w.now d, (p.outcomes j).result))),
        w.called) := by
  simp only [under, execute, operations, Activity.call, frame, Nat.add_sub_cancel, h]
  rfl

theorem turn_answering (j : Nat) (wait : Wait) :
    ((p.under handle).turn
        (.calling (p.frame j (j + 1)) (some (wait, (p.outcomes j).result))) w).upshot =
      if wait.poll w.tokens w.now = .pending then
        (.waiting (.calling (p.frame j (j + 1)) (some (wait, (p.outcomes j).result))) wait, w)
      else (p.afterwards handle j w).upshot := by
  simp only [under, execute, operations, Activity.call]
  cases wait.poll w.tokens w.now <;> rfl

/-- A wait that is interrupted ends the retry, and one that is over leads to the next attempt. -/
theorem turn_pausing (j : Nat) (wait : Wait) :
    ((p.under handle).turn (.pausing (p.frame j (j + 1)) wait) w).upshot =
      match wait.poll w.tokens w.now with
      | .pending => (.waiting (.pausing (p.frame j (j + 1)) wait) wait, w)
      | .over => (.running (.checking (p.frame (j + 1) (j + 1))), w)
      | .interrupted reason => (.finished (.error (.interrupted reason)), w) := by
  rw [← frame_grow]
  simp only [under, execute]
  cases wait.poll w.tokens w.now <;> rfl

/-- A turn leaves the world as it is, but for the record of a call. -/
theorem turn_world (p : Plan ε α) (handle : Cancellation) (s : Trying ε α) (w : World) :
    ((p.under handle).turn s w).world = w ∨ ((p.under handle).turn s w).world = w.called := by
  cases s with
  | opening => exact .inl rfl
  | checking f =>
    simp only [under, execute]
    cases handle.check w.tokens w.now <;> exact .inl rfl
  | calling f s =>
    have hworld : ((p.under handle).turn (.calling f s) w).world =
        ((operations p.outcomes (f.calls - 1)).turn s w).world := by
      simp only [under, execute, Turn.inside]
      split
      · rfl
      · rfl
      · exact afterAttempt_world ..
    rw [hworld]
    exact operations_world ..
  | pausing f wait =>
    simp only [under, execute]
    cases wait.poll w.tokens w.now <;> exact .inl rfl

end Turns

end Plan

end Resilience.Retry
