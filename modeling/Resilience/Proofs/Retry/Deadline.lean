import Resilience.Proofs.Cache.Sweeping
import Resilience.Proofs.Retry.Law

/-!
# Retries under a deadline

A retry whose handle has a deadline, and whose token nobody calls off, makes the attempts that start
on schedule before the deadline, up to the first one that stops it (`Plan.Meets`). If that one is
among them it decides what the retry comes to, and otherwise the deadline does. This holds whatever
others do meanwhile (`Plan.meets_of_course`).

Alone, a retry records its attempts in the world and leaves the limiter and the cache to the
background (`Plan.calls_of_solo`, `Plan.kept_swept`).
-/

namespace Resilience

/-- From `w₀` to `w` the cache was swept at some instants, in order, and neither it nor the limiter
was touched otherwise. -/
structure World.SweptTo (w₀ w : World) : Prop where
  now_le : w₀.now ≤ w.now
  limiter : w.limiter? = w₀.limiter?
  cache : ∃ instants : List Nat, instants.Pairwise (· ≤ ·) ∧
    (∀ t ∈ instants, w₀.now ≤ t ∧ t ≤ w.now) ∧ w.cache? = w₀.cache?.map (·.sweptAt instants)

namespace World.SweptTo

variable {w₀ w w' : World}

theorem refl (w : World) : w.SweptTo w where
  now_le := Nat.le_refl _
  limiter := rfl
  cache := ⟨[], .nil, by simp, by simp [Cache.Expiring.sweptAt]⟩

/-- Time passes. -/
theorem later (h : w₀.SweptTo w) (hnow : w.now ≤ w'.now) (hlimiter : w'.limiter? = w.limiter?)
    (hcache : w'.cache? = w.cache?) : w₀.SweptTo w' where
  now_le := Nat.le_trans h.now_le hnow
  limiter := hlimiter.trans h.limiter
  cache := by
    obtain ⟨instants, hsorted, hwithin, hswept⟩ := h.cache
    have hwithin' : ∀ t ∈ instants, w₀.now ≤ t ∧ t ≤ w'.now := fun t ht =>
      ⟨(hwithin t ht).1, Nat.le_trans (hwithin t ht).2 hnow⟩
    exact ⟨instants, hsorted, hwithin', hcache.trans hswept⟩

theorem background (h : w₀.SweptTo w) : w₀.SweptTo w.background.1 where
  now_le := h.now_le.trans_eq w.background_now.symm
  limiter := by
    rw [background_fst]
    exact h.limiter
  cache := by
    obtain ⟨instants, hsorted, hwithin, hswept⟩ := h.cache
    rw [background_now, cache?_background, hswept, Option.map_map]
    refine ⟨instants ++ [w.now], ?_, ?_, ?_⟩
    · rw [List.pairwise_append]
      refine ⟨hsorted, List.pairwise_singleton _ _, fun t ht u hu => ?_⟩
      rw [List.mem_singleton.1 hu]
      exact (hwithin t ht).2
    · intro t ht
      rcases List.mem_append.1 ht with ht | ht
      · exact hwithin t ht
      · rw [List.mem_singleton.1 ht]
        exact ⟨h.now_le, Nat.le_refl _⟩
    · simp [Function.comp_def, Cache.Expiring.sweptAt_append]

end World.SweptTo

namespace Retry.Plan

variable {ε α : Type} {p : Plan ε α} {handle : Cancellation}

/-! ## The account -/

/-- The account of a retry that began at `t₀` and had until `deadline` : when it made its attempts,
and what it came to. No attempt follows one that stops the retry, or one after which the next would
start too late. -/
def Meets (p : Plan ε α) (t₀ deadline : Nat) (times : List Nat)
    (result : Except (Error ε) α) : Prop :=
  ∃ i, times = (List.range (i + 1)).map (p.startAt t₀) ∧ (∀ t ∈ times, t < deadline) ∧
    (∀ j < i, ¬p.Stops j) ∧
    (p.Stops i ∧ result = p.lawful i ∨
      ¬p.Stops i ∧ deadline ≤ p.startAt t₀ (i + 1) ∧
        result = .error (.interrupted .deadlineExceeded))

/-- There is no more than one such account. -/
theorem Meets.unique {t₀ deadline : Nat} {times times' : List Nat}
    {result result' : Except (Error ε) α} (h : p.Meets t₀ deadline times result)
    (h' : p.Meets t₀ deadline times' result') : times = times' ∧ result = result' := by
  obtain ⟨i, rfl, hbefore, hi, hend⟩ := h
  obtain ⟨i', rfl, hbefore', hi', hend'⟩ := h'
  -- The attempt that is the last of one of them is followed by another one in neither.
  have hle : ∀ {i i' : Nat}, (∀ t ∈ (List.range (i' + 1)).map (p.startAt t₀), t < deadline) →
      (∀ j < i', ¬p.Stops j) → (p.Stops i ∨ deadline ≤ p.startAt t₀ (i + 1)) → i' ≤ i := by
    intro i i' hbefore hgoes hend
    refine Nat.le_of_not_lt fun hlt => ?_
    rcases hend with hstops | hlate
    · exact hgoes i hlt hstops
    · have hmem : p.startAt t₀ (i + 1) ∈ (List.range (i' + 1)).map (p.startAt t₀) :=
        List.mem_map_of_mem (List.mem_range.2 (by omega))
      exact Nat.not_le_of_lt (hbefore _ hmem) hlate
  obtain rfl : i = i' := Nat.le_antisymm
    (hle hbefore hi (hend'.imp And.left fun h => h.2.1))
    (hle hbefore' hi' (hend.imp And.left fun h => h.2.1))
  refine ⟨rfl, ?_⟩
  rcases hend with ⟨hstops, hresult⟩ | ⟨hstops, -, hresult⟩ <;>
    rcases hend' with ⟨hstops', hresult'⟩ | ⟨hstops', -, hresult'⟩
  · rw [hresult, hresult']
  · exact absurd hstops hstops'
  · exact absurd hstops' hstops
  · rw [hresult, hresult']

/-- Nothing interrupts the retry but its deadline. -/
theorem Meets.eq_deadlineExceeded {t₀ deadline : Nat} {times : List Nat} {reason : Interruption}
    (h : p.Meets t₀ deadline times (.error (.interrupted reason))) :
    reason = .deadlineExceeded := by
  obtain ⟨i, -, -, -, ⟨-, hresult⟩ | ⟨-, -, hresult⟩⟩ := h
  · exact absurd hresult.symm (p.conclusion_ne_interrupted _ _ i reason)
  · cases hresult
    rfl

/-! ## Along a course -/

variable [Described ε]

omit [Described ε] in
/-- A retry that takes another turn has not come beyond the start of its next attempt. -/
theorem Standing.now_le_startAt {t₀ : Nat} {m : Tally}
    {progress : Progress (Trying ε α) (Except (Error ε) α)} {w : World} {s : Trying ε α}
    (h : p.Standing handle t₀ m progress w) (hs : progress.ready? w = some s) :
    w.now ≤ p.startAt t₀ m.attempts := by
  cases h with
  | opening hnow | checking _ hnow | calling _ hnow => exact Nat.le_of_eq hnow
  | @answering j _ _ _ _ hnow | @awaiting j _ _ _ _ hnow =>
    exact Nat.le_trans hnow (p.answerAt_le_startAt t₀ j)
  | pausing _ hnow | sleeping _ hnow => exact hnow
  | settled | interrupted => cases hs

/-- Whatever others do, a retry whose token is not called off meets its deadline. -/
theorem meets_of_course (hp : p.retries + 1 < UInt32.size) {deadline : Nat}
    (hdeadline : handle.deadline? = some deadline) {w₀ w : World}
    {turns : List (Trying ε α × World)} {result : Except (Error ε) α}
    (h : (p.under handle).Course w₀ turns (.finished result) w) (hstart : w₀.now < deadline)
    (hlive : w.tokens.isCancelled handle.token = false) :
    p.Meets w₀.now deadline ((p.under handle).callTimes turns) result := by
  obtain ⟨m, hstanding, hledger⟩ := keeps_to_schedule h
  have hbefore : ∀ t ∈ (p.under handle).callTimes turns, t < deadline := by
    intro t ht
    obtain ⟨u, hu, rfl⟩ := List.mem_map.1 ht
    obtain ⟨hmem, hcalls⟩ := List.mem_filter.1 hu
    exact (Cancellation.check_eq_none_iff.1 (hledger.live u hmem hcalls)).2 deadline hdeadline
  cases hstanding with
  | @settled j _ hj hstops =>
    exact ⟨j, hledger.attempts, hbefore, hj, .inl ⟨hstops, verdict_eq_lawful hp j⟩⟩
  | @interrupted _ reason _ hm hcheck _ =>
    obtain ⟨rfl, hreached⟩ : reason = .deadlineExceeded ∧ deadline ≤ w.now := by
      unfold Cancellation.check at hcheck
      rw [hlive, hdeadline] at hcheck
      simp only [Bool.false_eq_true, if_false, Option.any_some, decide_eq_true_eq] at hcheck
      split at hcheck
      · cases hcheck
        exact ⟨rfl, ‹_›⟩
      · cases hcheck
    have hnext : w.now ≤ p.startAt w₀.now m.attempts := by
      obtain ⟨before, progress, s, u, rfl, hcourse, hs, rfl⟩ := h.last_turn
      obtain ⟨m', hstanding', hledger'⟩ := keeps_to_schedule hcourse
      have hnow : ((p.under handle).turn s u).world.now = u.now := by
        rcases p.turn_world handle s u with hworld | hworld <;> rw [hworld]
        rfl
      have hattempts : m'.attempts ≤ m.attempts := by
        have hlength := congrArg List.length hledger.attempts
        have hlength' := congrArg List.length hledger'.attempts
        rw [Activity.callTimes_append, List.length_append] at hlength
        simp only [List.length_map, List.length_range] at hlength hlength'
        omega
      rw [hnow]
      exact (hstanding'.now_le_startAt hs).trans (p.startAt_mono _ hattempts)
    have hlate := hreached.trans hnext
    cases hattempts : m.attempts with
    | zero =>
      rw [hattempts] at hlate
      exact absurd hstart (Nat.not_lt_of_le hlate)
    | succ i =>
      rw [hattempts] at hlate hm
      refine ⟨i, hattempts ▸ hledger.attempts, hbefore, fun j hj => hm j (Nat.lt_succ_of_lt hj), ?_⟩
      exact .inr ⟨hm i (Nat.lt_succ_self i), hlate, rfl⟩

/-! ## Alone -/

/-- Alone, the calls in the record are those of the retry. -/
theorem calls_of_solo {w₀ w : World} {turns : List (Trying ε α × World)}
    {progress : Progress (Trying ε α) (Except (Error ε) α)}
    (h : (p.under handle).Solo w₀ turns progress w) :
    w.calls = ((p.under handle).callTimes turns).reverse ++ w₀.calls := by
  induction h with
  | start => rfl
  | @turn _ _ s w _ _ ih =>
    rw [Activity.callTimes_append, List.reverse_append, List.append_assoc, ← ih]
    unfold Activity.calls
    rcases p.turn_world handle s w with hworld | hworld <;> rw [hworld]
    · simp
    · have hcalls : w.called.calls ≠ w.calls := List.cons_ne_self _ _
      simp [hcalls]
      rfl
  | background _ ih =>
    rw [World.background_fst]
    exact ih
  | advance _ _ _ ih => exact ih

/-- A retry alone leaves the limiter and the cache to the background. -/
theorem kept_swept (p : Plan ε α) (handle : Cancellation) (w₀ : World) :
    World.Kept (p.under handle) w₀.SweptTo where
  turn s w h := by
    rcases p.turn_world handle s w with hworld | hworld <;> rw [hworld]
    · exact h
    · exact h.later (Nat.le_refl _) rfl rfl
  background h := h.background
  advance t h := h.later (Nat.le_max_left _ _) rfl rfl

end Retry.Plan

end Resilience
