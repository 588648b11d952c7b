import Mathlib.Order.Bounds.Basic
import Resilience.Proofs.Activity.Alone
import Resilience.Proofs.Activity.Timely

/-!
# A sleep and the check of its handle

On a clock that only timers move, a sleep and the check of its handle tell the same story
(`Cancellation.sleep_tells_as_check`) : a sleep whose handle has ended does not begin, and any other
is over at the earliest of its own end, the deadline and the instant at which the token is called
off, with what the check finds at that very instant.

`Cancellation.Underway` is what a sleep keeps while it waits : no timer of it has been passed, and
the token has not been called off before the present instant. A sleep that is alone ends by what has
been arranged for its token (`Cancellation.Foreseen`).
-/

namespace Resilience

namespace Activity

/-- The turn in which a sleep polls its wait. -/
theorem sleep_turn_polling (c : Cancellation) (d : Nat) (wait : Wait) (w : World) :
    (sleep c d).turn (some wait) w =
      ⟨w, [], match wait.poll w.tokens w.now with
        | .pending => .waiting (some wait) wait
        | .over => .finished none
        | .interrupted reason => .finished (some reason)⟩ := by
  simp only [sleep, Activity.wait]
  cases wait.poll w.tokens w.now <;> rfl

/-- The turn in which a sleep begins, or does not begin. -/
theorem sleep_turn_beginning (c : Cancellation) (d : Nat) (w : World) :
    (sleep c d).turn none w =
      ⟨w, [], match c.check w.tokens w.now with
        | none => .running (some ⟨Time.after w.now d, some c⟩)
        | some reason => .finished (some reason)⟩ := by
  simp only [sleep, Activity.wait, Cancellation.sleep]
  cases c.check w.tokens w.now <;> rfl

end Activity

/-! ## How a sleep stands -/

namespace Cancellation

variable {c : Cancellation} {d : Nat} {w₀ w w' : World} {trail : List World}

/-- The instants at which a sleep that begins at `start` may be over : its own end, the deadline,
and those at which the token is found called off. -/
def endings (c : Cancellation) (start d : Nat) (calledOff : Set Nat) : Set Nat :=
  {t | t = Time.tick (Time.after start d) ∨
    (∃ deadline, c.deadline? = some deadline ∧ t = Time.tick deadline) ∨ t ∈ calledOff}

/-- The instants at which the token was called off, in the worlds come through. -/
def calledOffIn (c : Cancellation) (trail : List World) : Set Nat :=
  {t | ∃ u ∈ trail, u.tokens.isCancelled c.token = true ∧ u.now = t}

/-- How a sleep of `d` from `start` on turns out that has come to `r` in the world `w`. -/
structure Slept (c : Cancellation) (start d : Nat) (calledOff : Set Nat) (r : Option Interruption)
    (w : World) : Prop where
  instant : IsLeast (c.endings start d calledOff) w.now
  agrees : r = c.check w.tokens w.now
  deadline_ahead : r = none → ∀ deadline, c.deadline? = some deadline → w.now < deadline
  deadline_first : ∀ deadline, c.deadline? = some deadline →
    Time.tick deadline ≤ Time.tick (Time.after start d) → w.tokens.isCancelled c.token = false →
    r = some .deadlineExceeded
  cancelled_at : w.tokens.isCancelled c.token = true → w.now ∈ calledOff

/-- A sleep that is under way has passed none of its timers, and its token is not called off
before the present instant. -/
structure Underway (c : Cancellation) (start d : Nat) (trail : List World) (w : World) : Prop where
  start_live : ∀ deadline, c.deadline? = some deadline → start < deadline
  start_le : start ≤ w.now
  now_le : w.now ≤ max start (c.waitFor start d).nextTick
  mem : w ∈ trail
  calledOff : ∀ u ∈ trail, u.tokens.isCancelled c.token = true →
    w.tokens.isCancelled c.token = true ∧ u.now = w.now

namespace Underway

variable {start : Nat}

/-- A sleep begins under way, if its handle has not ended. -/
theorem begun (h : c.check w.tokens w.now = none) (htrail : ∀ u ∈ trail, u = w) (hw : w ∈ trail) :
    Underway c w.now d trail w where
  start_live := (check_eq_none_iff.1 h).2
  start_le := Nat.le_refl _
  now_le := Nat.le_max_left _ _
  mem := hw
  calledOff u hu hcancelled := by
    rw [htrail u hu, (check_eq_none_iff.1 h).1] at hcancelled
    cases hcancelled

/-- Others do something at the present instant. -/
theorem others (h : Underway c start d trail w) (hw : w.Becomes w') (hnow : w'.now = w.now) :
    Underway c start d (trail ++ [w']) w' where
  start_live := h.start_live
  start_le := hnow ▸ h.start_le
  now_le := hnow ▸ h.now_le
  mem := List.mem_append_right _ (List.mem_singleton_self w')
  calledOff u hu hcancelled := by
    rcases List.mem_append.1 hu with hu | hu
    · obtain ⟨hcalledOff, hinstant⟩ := h.calledOff u hu hcancelled
      exact ⟨hw.cancelled _ hcalledOff, hinstant.trans hnow.symm⟩
    · obtain rfl := List.mem_singleton.1 hu
      exact ⟨hcancelled, rfl⟩

/-- The clock moves, which it does only while the token is not called off. -/
theorem clock (h : Underway c start d trail w) {t : Nat}
    (hpending : (c.waitFor start d).poll w.tokens w.now = .pending)
    (ht : t ≤ (c.waitFor start d).nextTick) :
    Underway c start d (trail ++ [w.advance t]) (w.advance t) where
  start_live := h.start_live
  start_le := h.start_le.trans (Nat.le_max_left _ _)
  now_le := Nat.max_le.2 ⟨h.now_le, ht.trans (Nat.le_max_right _ _)⟩
  mem := List.mem_append_right _ (List.mem_singleton_self _)
  calledOff u hu hcancelled := by
    have hlive := (waited_eq_pending_iff.1 ((Wait.poll_eq_pending_iff.1 hpending).2 c rfl)).1
    rcases List.mem_append.1 hu with hu | hu
    · rw [(h.calledOff u hu hcancelled).1] at hlive
      cases hlive
    · rw [List.mem_singleton.1 hu] at hcancelled
      exact absurd (hlive.symm.trans hcancelled) Bool.false_ne_true

/-- Where the token is called off, that is so since the present instant. -/
theorem now_mem (h : Underway c start d trail w)
    (hcancelled : w.tokens.isCancelled c.token = true) : w.now ∈ c.calledOffIn trail :=
  ⟨w, h.mem, hcancelled, rfl⟩

/-- The present is not beyond any of the ends. -/
theorem now_le_ending (h : Underway c start d trail w) {t : Nat}
    (ht : t ∈ c.endings start d (c.calledOffIn trail)) : w.now ≤ t := by
  have hnext := le_max_iff.1 h.now_le
  rcases ht with rfl | ⟨deadline, hdeadline, rfl⟩ | ⟨u, hu, hcancelled, rfl⟩
  · rcases hnext with hle | hle
    · exact hle.trans ((Time.le_after start d).trans (Time.le_tick _))
    · exact hle.trans (Wait.nextTick_le _)
  · rcases hnext with hle | hle
    · exact hle.trans ((h.start_live deadline hdeadline).le.trans (Time.le_tick _))
    · have hnextTick : (c.waitFor start d).nextTick = _ := Wait.nextTick_of_deadline hdeadline
      rw [hnextTick] at hle
      exact hle.trans (Time.tick_mono (Nat.min_le_left _ _))
  · exact (h.calledOff u hu hcancelled).2.ge

/-- The wait is pending as long as none of the ends has come. -/
theorem pending_iff (h : Underway c start d trail w) :
    (c.waitFor start d).poll w.tokens w.now = .pending ↔
      w.now ∉ c.endings start d (c.calledOffIn trail) := by
  have hcalledOff : w.now ∈ c.calledOffIn trail ↔ w.tokens.isCancelled c.token = true :=
    ⟨fun ⟨u, hu, hcancelled, _⟩ => (h.calledOff u hu hcancelled).1, h.now_mem⟩
  have hfired : ∀ t, (t = Time.tick (Time.after start d) ∨
      ∃ deadline, c.deadline? = some deadline ∧ t = Time.tick deadline) →
      (t ≤ w.now ↔ w.now = t) := fun t ht =>
    ⟨fun hle => Nat.le_antisymm (h.now_le_ending (ht.imp_right .inl)) hle, fun heq => heq.ge⟩
  rw [Wait.poll_eq_pending_iff]
  simp only [Option.some.injEq, forall_eq', waited_eq_pending_iff, Time.fired_eq_false_iff,
    ← Nat.not_le]
  rw [hfired _ (.inl rfl)]
  constructor
  · rintro ⟨hends, hlive, hdeadlines⟩ (heq | ⟨deadline, hdeadline, heq⟩ | hoff)
    · exact hends heq
    · exact hdeadlines deadline hdeadline heq.ge
    · rw [hcalledOff.1 hoff] at hlive
      cases hlive
  · intro hnone
    refine ⟨fun heq => hnone (.inl heq), ?_, fun deadline hdeadline hle => ?_⟩
    · exact Bool.eq_false_iff.2 fun hcancelled => hnone (.inr (.inr (hcalledOff.2 hcancelled)))
    · have heq := (hfired _ (.inr ⟨deadline, hdeadline, rfl⟩)).1 hle
      exact hnone (.inr (.inl ⟨deadline, hdeadline, heq⟩))

/-- A wait that is no longer pending has ended at the earliest of the ends. -/
theorem instant (h : Underway c start d trail w)
    (hpoll : (c.waitFor start d).poll w.tokens w.now ≠ .pending) :
    IsLeast (c.endings start d (c.calledOffIn trail)) w.now :=
  ⟨Classical.not_not.1 (mt h.pending_iff.2 hpoll), fun _ => h.now_le_ending⟩

/-- A sleep that is over in its own time. -/
theorem slept_of_over (h : Underway c start d trail w)
    (hpoll : (c.waitFor start d).poll w.tokens w.now = .over) :
    Slept c start d (c.calledOffIn trail) none w := by
  have hcheck := Wait.check_of_over rfl h.start_live h.now_le hpoll
  obtain ⟨hlive, hahead⟩ := check_eq_none_iff.1 hcheck
  refine ⟨h.instant (by simp [hpoll]), hcheck.symm, fun _ => hahead, ?_, h.now_mem⟩
  intro deadline hdeadline hfirst _
  have hends := Time.fired_iff.1 (Wait.poll_eq_over_iff.1 hpoll).1
  have hreached := ((Time.le_tick deadline).trans hfirst).trans hends
  exact absurd hreached (Nat.not_le.2 (hahead deadline hdeadline))

/-- A sleep that its handle has ended. -/
theorem slept_of_interrupted (h : Underway c start d trail w) {reason : Interruption}
    (hpoll : (c.waitFor start d).poll w.tokens w.now = .interrupted reason) :
    Slept c start d (c.calledOffIn trail) (some reason) w := by
  have hcheck := Wait.check_of_interrupted (c := c) rfl hpoll
  refine ⟨h.instant (by simp [hpoll]), hcheck.symm, nofun, fun deadline _ _ hlive => ?_, h.now_mem⟩
  unfold check at hcheck
  rw [hlive] at hcheck
  simp only [Bool.false_eq_true, if_false] at hcheck
  split at hcheck
  · exact hcheck.symm
  · cases hcheck

end Underway

/-- How a sleep stands that began with a handle that had not ended. -/
inductive Asleep (c : Cancellation) (d : Nat) (w₀ : World) :
    List World → Progress (Option Wait) (Option Interruption) → World → Prop
  | opening : Asleep c d w₀ [w₀] (.running none) w₀
  | begun : Asleep c d w₀ [w₀, w₀] (.running (some (c.waitFor w₀.now d))) w₀
  | waiting {trail : List World} {w : World} (h : Underway c w₀.now d trail w) :
      Asleep c d w₀ trail (.waiting (some (c.waitFor w₀.now d)) (c.waitFor w₀.now d)) w
  | finished {trail : List World} {r : Option Interruption} {w : World}
      (h : Underway c w₀.now d trail w) (hslept : Slept c w₀.now d (c.calledOffIn trail) r w) :
      Asleep c d w₀ trail (.finished r) w

/-- The turn in which a sleep looks whether it is over. -/
theorem Underway.turn (h : Underway c w₀.now d trail w) :
    Asleep c d w₀ (trail ++ [w])
      ((Activity.sleep c d).turn (some (c.waitFor w₀.now d)) w).progress w := by
  have hnext := h.others ⟨Nat.le_refl _, fun _ ht => ht⟩ rfl
  rw [Activity.sleep_turn_polling]
  dsimp only
  split <;> rename_i hpoll
  · exact .waiting hnext
  · exact .finished hnext (hnext.slept_of_over hpoll)
  · exact .finished hnext (hnext.slept_of_interrupted hpoll)

/-- On a timely course a sleep is asleep or has ended as it should. -/
theorem asleep_of_timely (hlive : c.check w₀.tokens w₀.now = none)
    {progress : Progress (Option Wait) (Option Interruption)}
    (h : (Activity.sleep c d).Timely w₀ trail progress w) : Asleep c d w₀ trail progress w := by
  induction h with
  | start => exact .opening
  | turn _ hs ih =>
    cases ih with
    | opening =>
      cases hs
      rw [Activity.sleep_turn_beginning, hlive]
      exact .begun
    | begun =>
      cases hs
      have hunderway : Underway c w₀.now d [w₀, w₀] w₀ := .begun hlive (by simp) (by simp)
      have hturn := hunderway.turn
      rwa [Activity.sleep_turn_polling] at hturn ⊢
    | waiting hunderway =>
      obtain rfl : some (c.waitFor w₀.now d) = _ := Option.some.inj (Progress.state?_of_ready hs)
      have hturn := hunderway.turn
      rwa [Activity.sleep_turn_polling] at hturn ⊢
    | finished => cases hs
  | others _ hw hnow ih =>
    cases ih with
    | waiting hunderway => exact .waiting (hunderway.others hw hnow)
  | clock t _ hpending ht ih =>
    cases ih with
    | waiting hunderway => exact .waiting (hunderway.clock hpending ht)

/-! ## A sleep alone -/

/-- The instants at which the token is called off as it has been arranged for. -/
def arranged (c : Cancellation) (w : World) : Set Nat :=
  {t | ∃ k ∈ w.cancels, k.2.CallsOff c.token ∧ t = max w.now (Time.tick k.1)}

/-- Since `w₀` nobody has called the token off but as arranged, and the clock has not passed the
instant at which that is to happen. -/
structure Foreseen (c : Cancellation) (w₀ w : World) : Prop where
  now_le : ∀ t ∈ c.arranged w₀, w.now ≤ t
  ahead : w.tokens.isCancelled c.token = false →
    ∀ k ∈ w₀.cancels, k.2.CallsOff c.token → k ∈ w.cancels
  called : w.tokens.isCancelled c.token = true →
    ∃ k ∈ w₀.cancels, k.2.CallsOff c.token ∧ Time.tick k.1 ≤ w.now
  subset : w.cancels ⊆ w₀.cancels

namespace Foreseen

theorem start (hlive : w₀.tokens.isCancelled c.token = false) : Foreseen c w₀ w₀ where
  now_le := by
    rintro _ ⟨k, -, -, rfl⟩
    exact Nat.le_max_left _ _
  ahead _ k hk _ := hk
  called h := absurd (hlive.symm.trans h) Bool.false_ne_true
  subset := List.Subset.refl _

/-- What is called off in the background was arranged at the start. -/
theorem background (h : Foreseen c w₀ w) : Foreseen c w₀ w.background.1 where
  now_le := by
    rw [World.background_now]
    exact h.now_le
  ahead hlive k hk hoff := by
    rw [World.tokens_background, ← Bool.not_eq_true, Tokens.isCancelled_cancels_iff] at hlive
    have hmem := h.ahead (Bool.eq_false_iff.2 fun hcancelled => hlive (.inl hcancelled)) k hk hoff
    rw [World.cancels_background, List.mem_filter]
    refine ⟨hmem, ?_⟩
    rw [Bool.not_eq_true', Bool.eq_false_iff]
    exact fun hfired => hlive (.inr ⟨k, List.mem_filter.2 ⟨hmem, hfired⟩, hoff⟩)
  called hcancelled := by
    rw [World.background_now]
    rw [World.tokens_background, Tokens.isCancelled_cancels_iff] at hcancelled
    rcases hcancelled with hcancelled | ⟨k, hk, hoff⟩
    · exact h.called hcancelled
    · obtain ⟨hmem, hfired⟩ := List.mem_filter.1 hk
      exact ⟨k, h.subset hmem, hoff, Time.fired_iff.1 hfired⟩
  subset := by
    rw [World.cancels_background]
    exact fun k hk => h.subset (List.mem_filter.1 hk).1

/-- As long as the token is not called off, what has been arranged is still to come, so that the
clock stops there. -/
theorem advance (h : Foreseen c w₀ w) (hlive : w.tokens.isCancelled c.token = false) {t : Nat}
    (ht : ∀ u, w.nextTick? = some u → t ≤ u) : Foreseen c w₀ (w.advance t) where
  now_le := by
    rintro _ ⟨k, hk, hoff, rfl⟩
    obtain ⟨u, hnext, hle⟩ := World.nextTick?_le_of_mem (h.ahead hlive k hk hoff)
    refine Nat.max_le.2 ⟨h.now_le _ ⟨k, hk, hoff, rfl⟩, ?_⟩
    exact ((ht u hnext).trans hle).trans (Nat.le_max_right _ _)
  ahead := h.ahead
  called hcancelled := absurd (hlive.symm.trans hcancelled) Bool.false_ne_true
  subset := h.subset

/-- What calls the token off now is what has been arranged. -/
theorem now_mem (h : Foreseen c w₀ w) (hstart : w₀.now ≤ w.now)
    (hcancelled : w.tokens.isCancelled c.token = true) : w.now ∈ c.arranged w₀ := by
  obtain ⟨k, hk, hoff, htick⟩ := h.called hcancelled
  have hmem : max w₀.now (Time.tick k.1) ∈ c.arranged w₀ := ⟨k, hk, hoff, rfl⟩
  have hnow := Nat.le_antisymm (h.now_le _ hmem) (Nat.max_le.2 ⟨hstart, htick⟩)
  rwa [hnow]

/-- Where nobody else calls the token off, a sleep ends by what has been arranged. -/
theorem slept (h : Foreseen c w₀ w) (hunderway : Underway c w₀.now d trail w)
    {r : Option Interruption} (hslept : Slept c w₀.now d (c.calledOffIn trail) r w) :
    Slept c w₀.now d (c.arranged w₀) r w where
  instant := by
    constructor
    · rcases hslept.instant.1 with hends | hdeadline | ⟨u, hu, hcancelled, -⟩
      · exact .inl hends
      · exact .inr (.inl hdeadline)
      · have hnow := (hunderway.calledOff u hu hcancelled).1
        exact .inr (.inr (h.now_mem hunderway.start_le hnow))
    · rintro t (hends | hdeadline | hoff)
      · exact hslept.instant.2 (.inl hends)
      · exact hslept.instant.2 (.inr (.inl hdeadline))
      · exact h.now_le t hoff
  agrees := hslept.agrees
  deadline_ahead := hslept.deadline_ahead
  deadline_first := hslept.deadline_first
  cancelled_at := h.now_mem hunderway.start_le

end Foreseen

/-- The turns that a sleep has taken at most. -/
def turnsOf : Progress (Option Wait) (Option Interruption) → Nat
  | .running none => 0
  | .running (some _) => 1
  | .waiting _ _ => 2
  | .finished _ => 3

/-- What a sleep that is alone carries along. -/
structure CarriesSleep (c : Cancellation) (d : Nat) (w₀ : World)
    (turns : List (Option Wait × World)) (progress : Progress (Option Wait) (Option Interruption))
    (w : World) : Prop where
  timely : ∃ trail, (Activity.sleep c d).Timely w₀ trail progress w
  foreseen : Foreseen c w₀ w
  steady : w.Steady
  turns_le : turns.length ≤ turnsOf progress

/-- A sleep alone carries its account to its end. -/
theorem carried_sleep (d : Nat) (hlive : c.check w₀.tokens w₀.now = none) :
    (Activity.sleep c d).Carried (fun _ => False) (CarriesSleep c d w₀) where
  turn := by
    rintro turns progress s w ⟨⟨trail, htimely⟩, hforeseen, hsteady, hturns⟩ - hs
    have hworld : ((Activity.sleep c d).turn s w).world = w := by
      cases s with
      | none => rw [Activity.sleep_turn_beginning]
      | some wait => rw [Activity.sleep_turn_polling]
    refine ⟨⟨_, htimely.turn hs⟩, by rwa [hworld], by rwa [hworld], ?_⟩
    rw [List.length_append, List.length_singleton]
    have hasleep := asleep_of_timely hlive htimely
    cases hasleep with
    | finished => cases hs
    | opening =>
      cases hs
      rw [Activity.sleep_turn_beginning, hlive]
      exact Nat.succ_le_succ hturns
    | begun =>
      cases hs
      rw [Activity.sleep_turn_polling]
      dsimp only
      split
      · exact Nat.succ_le_succ hturns
      · exact (Nat.succ_le_succ hturns).trans (Nat.le_succ 2)
      · exact (Nat.succ_le_succ hturns).trans (Nat.le_succ 2)
    | waiting hunderway =>
      obtain rfl : some (c.waitFor w₀.now d) = s := Option.some.inj (Progress.state?_of_ready hs)
      have hpoll : (c.waitFor w₀.now d).poll w.tokens w.now ≠ .pending := by
        intro hpending
        simp [Progress.ready?, hpending] at hs
      rw [Activity.sleep_turn_polling]
      dsimp only
      split <;> rename_i hwaited
      · exact absurd hwaited hpoll
      · exact Nat.succ_le_succ hturns
      · exact Nat.succ_le_succ hturns
  background := by
    rintro turns s wait w ⟨⟨trail, htimely⟩, hforeseen, hsteady, hturns⟩
    exact ⟨⟨_, htimely.others w.becomes_background w.background_now⟩, hforeseen.background,
      World.steady_background hsteady, hturns⟩
  advance := by
    rintro turns s wait w t ⟨⟨trail, htimely⟩, hforeseen, hsteady, hturns⟩ ht
    refine ⟨⟨_, htimely.clock t ht.pending ht.le_nextTick⟩, ?_, hsteady, hturns⟩
    have hasleep := asleep_of_timely hlive htimely
    cases hasleep with
    | waiting =>
      have hpending := (Wait.poll_eq_pending_iff.1 ht.pending).2 c rfl
      exact hforeseen.advance (waited_eq_pending_iff.1 hpending).1 ht.le_background
  steady h := h.steady

/-! ## The sleep and the check -/

/-- A sleep that does not begin leaves the world as it is. -/
theorem not_begun_of_timely {reason : Interruption}
    (hended : c.check w₀.tokens w₀.now = some reason)
    {progress : Progress (Option Wait) (Option Interruption)}
    (h : (Activity.sleep c d).Timely w₀ trail progress w) :
    w = w₀ ∧ (progress = .running none ∨ progress = .finished (some reason)) := by
  induction h with
  | start => exact ⟨rfl, .inl rfl⟩
  | turn _ hs ih =>
    obtain ⟨rfl, rfl | rfl⟩ := ih
    · cases hs
      rw [Activity.sleep_turn_beginning, hended]
      exact ⟨rfl, .inr rfl⟩
    · cases hs
  | others _ _ _ ih | clock _ _ _ _ ih => rcases ih with ⟨-, h | h⟩ <;> cases h

/-- A sleep that is alone comes to its end, on a course on which only what has been arranged calls
its token off. -/
theorem ends_slept (d : Nat) (hlive : c.check w₀.tokens w₀.now = none) (hsteady : w₀.Steady) :
    ∃ fuel₀ trail r w events, (Activity.sleep c d).Timely w₀ trail (.finished r) w ∧
      Slept c w₀.now d (c.arranged w₀) r w ∧
      ∀ fuel ≥ fuel₀, Session.run fuel (.alone (Activity.sleep c d) w₀) =
        ⟨w, [⟨Activity.sleep c d, .finished r⟩], events⟩ := by
  have hbound : ∀ {turns progress w}, CarriesSleep c d w₀ turns progress w → turns.length ≤ 3 := by
    intro turns progress w h
    refine h.turns_le.trans ?_
    unfold turnsOf
    split <;> omega
  have hstart : CarriesSleep c d w₀ [] (.running none) w₀ :=
    ⟨⟨_, .start⟩, .start (check_eq_none_iff.1 hlive).1, hsteady, Nat.le_refl 0⟩
  obtain ⟨fuel₀, turns, progress, w, events, hcarries, hend, hrun⟩ :=
    (carried_sleep d hlive).reaches hbound hstart []
  obtain ⟨r, rfl⟩ := hend.resolve_left id
  obtain ⟨trail, htimely⟩ := hcarries.timely
  have hasleep := asleep_of_timely hlive htimely
  cases hasleep with
  | finished hunderway hslept =>
    refine ⟨fuel₀, trail, r, w, events, htimely, hcarries.foreseen.slept hunderway hslept, ?_⟩
    intro fuel hfuel
    obtain ⟨more, rfl⟩ := Nat.exists_eq_add_of_le hfuel
    have hreached : Session.run fuel₀ (.alone (Activity.sleep c d) w₀) = _ := hrun
    rw [Session.run_add, hreached, Session.run_of_step_none Session.step?_of_finished]

/-- On a clock that only timers move, whatever others do at each instant, a sleep under a handle
tells as the check of the handle does.

If the handle has ended at the start, the sleep answers so at once and leaves the world alone.
Otherwise it is over at the earliest of its own end, the deadline and the instant at which the token
is called off, the first two taken to whole milliseconds : it is ready for its last turn then and
not before, and answers what the check finds at that instant. So the deadline has not been reached
after a sleep that is over in its own time, and it goes first where both end at the same tick. A
sleep that is alone in its world gets there, by the instants at which its token is to be called off.

It is the same for the sleeps of a retry and of who waits for a token : after a sleep that is over
in its own time the check that follows it finds that the handle has not ended. -/
theorem sleep_tells_as_check (c : Cancellation) (d : Nat) (w₀ : World) :
    let p := Activity.sleep c d
    (∀ reason, c.check w₀.tokens w₀.now = some reason →
      (∀ trail r w, p.Timely w₀ trail (.finished r) w → r = some reason ∧ w = w₀) ∧
      ∀ fuel, Session.run (fuel + 1) (.alone p w₀) = ⟨w₀, [⟨p, .finished (some reason)⟩], []⟩) ∧
    (c.check w₀.tokens w₀.now = none →
      (∀ trail r w, p.Timely w₀ trail (.finished r) w →
        Slept c w₀.now d (c.calledOffIn trail) r w) ∧
      (∀ trail s wait w, p.Timely w₀ trail (.waiting s wait) w →
        (wait.poll w.tokens w.now ≠ .pending ↔
          IsLeast (c.endings w₀.now d (c.calledOffIn trail)) w.now)) ∧
      (w₀.Steady → ∃ fuel₀ trail r w events, p.Timely w₀ trail (.finished r) w ∧
        Slept c w₀.now d (c.arranged w₀) r w ∧
        ∀ fuel ≥ fuel₀, Session.run fuel (.alone p w₀) = ⟨w, [⟨p, .finished r⟩], events⟩)) ∧
    (∀ {σ ε α : Type} [Described ε] (config : Retry.Config) (worth : ε → Bool)
      (samples : Nat → Float) (op : Nat → Activity σ (Except ε α)) (trail : List World)
      (progress : Progress (Retry.Stage σ) (Except (Retry.Error ε) α)) (f : Retry.Frame)
      (wait : Wait) (w : World),
      (Retry.execute config c worth samples op).Timely w₀ trail progress w →
        progress.state? = some (.pausing f wait) → wait.poll w.tokens w.now = .over →
        c.check w.tokens w.now = none) ∧
    ∀ {σ ε α : Type} (op : Activity σ (Except ε α)) (trail : List World)
      (progress : Progress (Rate.Waiting σ) (Except (Rate.Error ε) α)) (since : Nat) (wait : Wait)
      (w : World),
      (Rate.executeWithWait c op).Timely w₀ trail progress w →
        progress.state? = some (.sleeping since wait) → wait.poll w.tokens w.now = .over →
        c.check w.tokens w.now = none := by
  intro p
  refine ⟨fun reason hended => ⟨fun trail r w h => ?_, fun fuel => ?_⟩, fun hlive => ⟨?_, ?_, ?_⟩,
    ?_, ?_⟩
  · obtain ⟨hworld, hprogress | hprogress⟩ := not_begun_of_timely hended h
    · cases hprogress
    · cases hprogress
      exact ⟨rfl, hworld⟩
  · rw [Session.alone, Slot.ofActivity, Session.run_of_step (Session.step?_of_ready rfl)]
    have hturn : p.turn p.start w₀ = ⟨w₀, [], .finished (some reason)⟩ := by
      rw [show p.start = none from rfl, Activity.sleep_turn_beginning, hended]
    rw [hturn, Session.run_of_step_none Session.step?_of_finished]
    rfl
  · intro trail r w h
    have hasleep := asleep_of_timely hlive h
    cases hasleep with
    | finished _ hslept => exact hslept
  · intro trail s wait w h
    have hasleep := asleep_of_timely hlive h
    cases hasleep with
    | waiting hunderway =>
      exact ⟨hunderway.instant, fun hleast => mt hunderway.pending_iff.1 (not_not.2 hleast.1)⟩
  · exact ends_slept d hlive
  · intro σ ε α _ config worth samples op trail progress f wait w h hs hpoll
    exact h.check_of_over (Retry.sleepsUnder_execute config c worth samples op) hs rfl hpoll
  · intro σ ε α op trail progress since wait w h hs hpoll
    exact h.check_of_over (Rate.sleepsUnder_executeWithWait c op) hs rfl hpoll

/-- A sleep from 0.2 ms on ends at 2.3 ms and its deadline is at 2.5 ms, both of which are the tick
of 3 ms, where the deadline goes first. The parent of its token is to be called off later. A sleep
that begins at its deadline does not begin. -/
theorem sleep_tells_as_check_of_same_tick :
    let w₀ : World := { now := 200000, cancels := [(8500000, ⟨[0]⟩)] }
    let c : Cancellation := { token := ⟨[1, 0]⟩, deadline? := some 2500000 }
    let late : Cancellation := { token := ⟨[1, 0]⟩, deadline? := some 200000 }
    c.check w₀.tokens w₀.now = none ∧ w₀.Steady ∧
      c.arranged w₀ = {9 * Time.millisecond} ∧
      (∃ fuel₀ w events, w.now = 3 * Time.millisecond ∧
        ∀ fuel ≥ fuel₀, Session.run fuel (.alone (Activity.sleep c 2100000) w₀) =
          ⟨w, [⟨Activity.sleep c 2100000, .finished (some .deadlineExceeded)⟩], events⟩) ∧
      late.check w₀.tokens w₀.now = some .deadlineExceeded ∧
      Session.run 1 (.alone (Activity.sleep late 2100000) w₀) =
        ⟨w₀, [⟨Activity.sleep late 2100000, .finished (some .deadlineExceeded)⟩], []⟩ := by
  intro w₀ c late
  have hlive : c.check w₀.tokens w₀.now = none := by decide
  have hended : late.check w₀.tokens w₀.now = some .deadlineExceeded := by decide
  have hsteady : w₀.Steady := by rintro _ ⟨⟩
  have harranged : c.arranged w₀ = {9 * Time.millisecond} := by
    ext t
    constructor
    · rintro ⟨k, hk, -, rfl⟩
      rw [List.mem_singleton.1 hk]
      decide
    · rintro rfl
      exact ⟨_, List.mem_singleton_self _, ⟨0, rfl, by decide⟩, by decide⟩
  refine ⟨hlive, hsteady, harranged, ?_, hended,
    ((sleep_tells_as_check late 2100000 w₀).1 _ hended).2 0⟩
  obtain ⟨fuel₀, trail, r, w, events, -, hslept, hrun⟩ :=
    ((sleep_tells_as_check c 2100000 w₀).2.1 hlive).2.2 hsteady
  have hle : w.now ≤ 3 * Time.millisecond := hslept.instant.2 (.inl (by decide))
  have hnow : w.now = 3 * Time.millisecond := by
    rcases hslept.instant.1 with hends | ⟨deadline, hdeadline, htick⟩ | hoff
    · exact hends.trans (by decide)
    · cases hdeadline
      exact htick.trans (by decide)
    · rw [harranged, Set.mem_singleton_iff] at hoff
      rw [hoff] at hle
      exact absurd hle (by decide)
  have hstill : w.tokens.isCancelled c.token = false := by
    refine Bool.eq_false_iff.2 fun hcancelled => ?_
    have hoff := hslept.cancelled_at hcancelled
    rw [harranged, hnow, Set.mem_singleton_iff] at hoff
    exact absurd hoff (by decide)
  obtain rfl := hslept.deadline_first 2500000 rfl (by decide) hstill
  exact ⟨fuel₀, w, events, hnow, hrun⟩

end Cancellation

end Resilience
