import Resilience.Proofs.Retry.Law

/-!
# Interrupted retries

A retry under any handle goes the way it would go under a handle that never ends, as far as it goes
(`Plan.interruption_law`). Both keep to the same schedule, so that the one has made a part of the
attempts of the other. The handle decides at two points alone, before an attempt and in a wait
between two. Once the attempt has begun that would be the last, the result is no longer in question.
-/

namespace Resilience.Retry.Plan

variable {ε α : Type} [Described ε] {p : Plan ε α} {handle : Cancellation}

theorem range_isPrefix {m n : Nat} (h : m ≤ n) : List.range m <+: List.range n := by
  rw [List.prefix_iff_eq_take, List.length_range, List.take_range, Nat.min_eq_left h]

/-- A turn leaves the handle as it is. -/
theorem check_turn_world (p : Plan ε α) (handle : Cancellation) (s : Trying ε α) (w : World) :
    handle.check ((p.under handle).turn s w).world.tokens ((p.under handle).turn s w).world.now =
      handle.check w.tokens w.now := by
  rcases p.turn_world handle s w with hworld | hworld
  · rw [hworld]
  · rw [hworld]
    rfl

/-- Compares a retry under any handle, as far as it has gone, with one that starts at the same
instant and finishes under a handle that never ends, whatever others do in either. Every attempt
begins under a handle that has not ended. The attempts are the first ones of the other retry, at the
same instants. A retry that finishes without being interrupted comes to the same result, and so does
one that has made all attempts of the other. A retry that is interrupted has not called the
operation in its last turn, and the reason is that for which the handle has then ended. -/
theorem interruption_law (p : Plan ε α) (handle free : Cancellation) {w₀ w₀' w w' : World}
    {turns turns' : List (Trying ε α × World)}
    {progress : Progress (Trying ε α) (Except (Error ε) α)} {result' : Except (Error ε) α}
    (hstart : w₀.now = w₀'.now) (h : (p.under handle).Course w₀ turns progress w)
    (h' : (p.under free).Course w₀' turns' (.finished result') w')
    (hdeadline : free.deadline? = none) (hlive : w'.tokens.isCancelled free.token = false) :
    (∀ t ∈ turns, (p.under handle).calls t = true → handle.check t.2.tokens t.2.now = none) ∧
    (p.under handle).callTimes turns <+: (p.under free).callTimes turns' ∧
    (∀ result, progress = .finished result →
      (∀ reason, result ≠ .error (.interrupted reason)) ∨
        (p.under handle).callTimes turns = (p.under free).callTimes turns' → result = result') ∧
    ∀ reason, progress = .finished (.error (.interrupted reason)) →
      handle.check w.tokens w.now = some reason ∧
        ∃ before last, turns = before ++ [last] ∧ (p.under handle).calls last = false ∧
          ((p.under handle).turn last.1 last.2).world = w := by
  obtain ⟨m, hstanding, hledger⟩ := keeps_to_schedule h
  obtain ⟨m', hstanding', hledger'⟩ := keeps_to_schedule h'
  obtain ⟨i, hstops, hi, rfl, rfl⟩ :=
    hstanding'.settled_of_live (Cancellation.check_eq_none_of_no_deadline hdeadline hlive)
  rw [hledger.attempts, hledger'.attempts, hstart]
  refine ⟨hledger.live, (range_isPrefix (hstanding.attempts_le hstops)).map _, ?_, ?_⟩
  · rintro result rfl hwhole
    cases hstanding with
    | @settled j _ hj hstops' =>
      obtain rfl : i = j := Nat.le_antisymm (Nat.le_of_not_lt fun hlt => hi j hlt hstops')
        (Nat.le_of_not_lt fun hlt => hj i hlt hstops)
      rfl
    | interrupted hm _ _ =>
      rcases hwhole with hwhole | hwhole
      · exact absurd rfl (hwhole _)
      · have hlength := congrArg List.length hwhole
        simp only [List.length_map, List.length_range] at hlength
        exact absurd hstops (hm i (by omega))
  · rintro reason rfl
    have hcheck := hstanding.check_of_interrupted
    obtain ⟨before, _, s, u, rfl, -, -, hworld⟩ := h.last_turn
    refine ⟨hcheck, before, (s, u), rfl, Bool.eq_false_iff.2 fun hcalls => ?_, hworld⟩
    have hnone := hledger.live (s, u) (by simp) hcalls
    rw [← check_turn_world p handle s u, hworld, hcheck] at hnone
    cases hnone

/-- One failure that takes a second, and then a success. -/
def failsOnce : Plan IoError Nat where
  config := { maxRetries := 1 }
  worth _ := true
  samples _ := 0
  outcomes j := if j = 0 then ⟨some Time.second, .error ⟨.timedOut, none⟩⟩ else ⟨none, .ok 7⟩

/-- The world in which a token was called off while the first attempt of `failsOnce` ran. -/
def calledOff : World := { now := Time.second, tokens := { cancelled := [0] }, calls := [0] }

theorem course_calledOff :
    ∃ turns, (failsOnce.under { token := ⟨[0]⟩ }).Course {} turns
      (.finished (.error (.interrupted .cancelled))) calledOff := by
  have hcalled : (failsOnce.under { token := ⟨[0]⟩ }).Course {} _ _ _ :=
    (((Activity.Course.start).turn rfl).turn rfl).turn rfl
  have hwaiting : (failsOnce.under { token := ⟨[0]⟩ }).Course {} _
      (.waiting (.calling (failsOnce.frame 0 1)
        (some (.pause 0 Time.second, .error ⟨.timedOut, none⟩))) (.pause 0 Time.second))
      { calls := [0] } := hcalled.turn rfl
  have hbecomes : World.Becomes { calls := [0] } calledOff :=
    ⟨Nat.zero_le _, by simp [Tokens.isCancelled]⟩
  have hanswered := hwaiting.others hbecomes (by decide)
  exact ⟨_, hanswered.turn rfl⟩

/-- The one attempt of a retry called off meanwhile is the first attempt of one that is not. -/
theorem interruption_law_of_failsOnce :
    ∃ turns turns' result' w', w'.tokens.isCancelled ⟨[1]⟩ = false ∧
      (failsOnce.under { token := ⟨[0]⟩ }).Course {} turns
        (.finished (.error (.interrupted .cancelled))) calledOff ∧
      (failsOnce.under { token := ⟨[1]⟩ }).Course {} turns' (.finished result') w' ∧
      (failsOnce.under { token := ⟨[0]⟩ }).callTimes turns <+:
        (failsOnce.under { token := ⟨[1]⟩ }).callTimes turns' ∧
      Cancellation.check { token := ⟨[0]⟩ } calledOff.tokens calledOff.now = some .cancelled := by
  obtain ⟨turns, hcourse⟩ := course_calledOff
  obtain ⟨i, -, -, -, turns', w', -, hcourse', -, hlive, -⟩ :=
    failsOnce.obeysLaw (by decide) { token := ⟨[1]⟩ } {} (by rintro c ⟨⟩)
      ⟨rfl, rfl, by rintro c ⟨⟩⟩
  have hlaw := interruption_law failsOnce { token := ⟨[0]⟩ } { token := ⟨[1]⟩ } rfl hcourse hcourse'
    rfl hlive
  exact ⟨turns, turns', _, w', hlive, hcourse, hcourse', hlaw.2.1, (hlaw.2.2.2 _ rfl).1⟩

end Resilience.Retry.Plan
