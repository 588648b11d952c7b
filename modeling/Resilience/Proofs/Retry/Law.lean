import Mathlib.Data.List.Forall2
import Mathlib.Data.Nat.Find
import Mathlib.Order.Bounds.Defs
import Resilience.Proofs.Activity.Alone
import Resilience.Proofs.Retry.Standing

/-!
# The law of retries

Under a handle that never ends a retry makes the attempts up to the first one that stops it, and
that one decides what it comes to (`Plan.outcome_law`). It waits once after every attempt but the
last, and asks the predicate about the failures of all attempts but the last one allowed. This holds
whatever others do meanwhile, and alone the retry does come to its end.
-/

namespace Resilience

/-! ## Handles that never end -/

/-- The handle has no deadline, and its token is not called off, nor is it about to be. -/
structure Cancellation.NeverEnds (handle : Cancellation) (w : World) : Prop where
  deadline : handle.deadline? = none
  live : w.tokens.isCancelled handle.token = false
  kept : ∀ c ∈ w.cancels, ∀ own ∈ c.2.lineage.head?, own ∉ handle.token.lineage

namespace Cancellation.NeverEnds

variable {handle : Cancellation} {w : World}

/-- A handle that never ends does not end in the background. -/
theorem background (h : handle.NeverEnds w) : handle.NeverEnds w.background.1 where
  deadline := h.deadline
  live := by
    rw [World.tokens_background, Bool.eq_false_iff, ne_eq, Tokens.isCancelled_cancels_iff, h.live]
    rintro (hcancelled | ⟨c, hc, own, hown, hmem⟩)
    · cases hcancelled
    · exact h.kept c (List.mem_filter.1 hc).1 own hown hmem
  kept c hc := by
    rw [World.cancels_background] at hc
    exact h.kept c (List.mem_filter.1 hc).1

theorem called (h : handle.NeverEnds w) : handle.NeverEnds w.called := ⟨h.deadline, h.live, h.kept⟩

theorem advance (h : handle.NeverEnds w) (t : Nat) : handle.NeverEnds (w.advance t) :=
  ⟨h.deadline, h.live, h.kept⟩

end Cancellation.NeverEnds

/-- What follows an inner activity matters only for the result it has. -/
theorem Turn.inside_congr {σ τ α β : Type} {t : Turn σ α} {wrap : σ → τ}
    {andThen andThen' : α → World → Turn τ β}
    (h : ∀ a, t.progress = .finished a → andThen a t.world = andThen' a t.world) :
    t.inside wrap andThen = t.inside wrap andThen' := by
  unfold inside
  split <;> rename_i a hprogress
  · rfl
  · rfl
  · rw [h a hprogress]

namespace Retry

variable {ε α : Type}

/-! ## When the predicate is asked -/

section AfterFailure

variable [Described ε] {σ : Type} {c : Config} {handle : Cancellation} {worth worth' : ε → Bool}
  {samples : Nat → Float} {f : Frame} {e : ε} {w : World}

/-- A failure of the last attempt allowed is judged by nothing else. -/
theorem afterFailure_of_last (h : f.attempt = c.maxRetries) :
    (afterFailure c handle worth samples f e w : Turn (Stage σ) (Except (Error ε) α)) =
      afterFailure c handle worth' samples f e w := by
  unfold afterFailure
  rw [if_pos h, if_pos h]

/-- Nothing matters of the predicate but what it says of the failure. -/
theorem afterFailure_congr (h : worth e = worth' e) :
    (afterFailure c handle worth samples f e w : Turn (Stage σ) (Except (Error ε) α)) =
      afterFailure c handle worth' samples f e w := by
  unfold afterFailure
  rw [h]

/-- What the predicate says of any other failure than that of the last attempt makes a
difference. -/
theorem afterFailure_progress_ne (hlast : f.attempt ≠ c.maxRetries) (h : worth e ≠ worth' e) :
    (afterFailure c handle worth samples f e w : Turn (Stage σ) (Except (Error ε) α)).progress ≠
      (afterFailure c handle worth' samples f e w).progress := by
  intro hprogress
  rw [afterFailure_progress, afterFailure_progress, if_neg hlast, if_neg hlast] at hprogress
  cases hw : worth e <;> cases hw' : worth' e
  · exact h (hw.trans hw'.symm)
  · simp only [hw, hw', if_true, Bool.true_eq_false, if_false] at hprogress
    split at hprogress <;> cases hprogress
  · simp only [hw, hw', if_true, Bool.true_eq_false, if_false] at hprogress
    split at hprogress <;> cases hprogress
  · exact h (hw.trans hw'.symm)

end AfterFailure

namespace Plan

variable [Described ε] {p : Plan ε α} {handle : Cancellation}

/-- Whether a turn asks the predicate about `e` : another predicate that differs in what it says of
`e` alone would make another turn of it. -/
def Consults (p : Plan ε α) (handle : Cancellation) (t : Trying ε α × World) (e : ε) : Prop :=
  ∃ worth : ε → Bool, (∀ e' ≠ e, worth e' = p.worth e') ∧
    (Plan.under { p with worth } handle).turn t.1 t.2 ≠ (p.under handle).turn t.1 t.2

omit [Described ε] in
/-- A turn has a failure judged if the operation fails in it and another attempt is allowed. -/
theorem judged?_eq_some_iff {f : Frame} {s : Option (Wait × Except ε α)} {w : World} {e : ε} :
    p.judged? (.calling f s, w) = some e ↔
      ((operations p.outcomes (f.calls - 1)).turn s w).progress = .finished (.error e) ∧
        f.attempt ≠ p.config.maxRetries := by
  unfold judged?
  dsimp only
  split <;> rename_i h
  · by_cases hlast : f.attempt = p.config.maxRetries <;> simp [hlast, h]
  · simp only [reduceCtorEq, false_iff, not_and]
    exact fun heq => absurd heq (h e)

theorem consults_iff {t : Trying ε α × World} {e : ε} :
    p.Consults handle t e ↔ p.judged? t = some e := by
  classical
  obtain ⟨stage, w⟩ := t
  cases stage with
  | opening => exact ⟨fun ⟨_, _, hne⟩ => absurd rfl hne, fun h => nomatch h⟩
  | checking f => exact ⟨fun ⟨_, _, hne⟩ => absurd rfl hne, fun h => nomatch h⟩
  | pausing f wait => exact ⟨fun ⟨_, _, hne⟩ => absurd rfl hne, fun h => nomatch h⟩
  | calling f s =>
    have hturn : ∀ worth : ε → Bool, (Plan.under { p with worth } handle).turn (.calling f s) w =
        ((operations p.outcomes (f.calls - 1)).turn s w).inside (.calling f)
          (afterAttempt p.config.coerced handle worth p.samples f) := fun _ => rfl
    rw [judged?_eq_some_iff]
    unfold Consults
    rw [show p.under handle = Plan.under { p with worth := p.worth } handle from rfl]
    simp only [hturn]
    generalize (operations p.outcomes (f.calls - 1)).turn s w = t
    constructor
    · rintro ⟨worth, hworth, hne⟩
      refine Classical.byContradiction fun hnot => hne (Turn.inside_congr fun result hresult => ?_)
      cases result with
      | ok a => rfl
      | error e' =>
        by_cases hlast : f.attempt = p.config.maxRetries
        · exact afterFailure_of_last hlast
        · exact afterFailure_congr (hworth e' fun he => hnot ⟨by rw [hresult, he], hlast⟩)
    · rintro ⟨hprogress, hlast⟩
      refine ⟨fun e' => if e' = e then !p.worth e else p.worth e', fun e' he => if_neg he, ?_⟩
      rw [Turn.inside_of_finished hprogress, Turn.inside_of_finished hprogress]
      intro heq
      have hlast' : f.attempt ≠ p.config.coerced.maxRetries := hlast
      have hsame := congrArg Turn.progress heq
      dsimp only [afterAttempt] at hsame
      refine afterFailure_progress_ne hlast' ?_ hsame
      simp

theorem forall₂_filterMap {β γ : Type} {R : β → γ → Prop} [DecidablePred fun b => ∃ c, R b c]
    {f : β → Option γ} (hR : ∀ b c, R b c ↔ f b = some c) (bs : List β) :
    List.Forall₂ R (bs.filter fun b => ∃ c, R b c) (bs.filterMap f) := by
  induction bs with
  | nil => exact .nil
  | cons b bs ih =>
    cases hb : f b with
    | none => simpa [hR, hb] using ih
    | some c => simpa [hR, hb] using List.Forall₂.cons ((hR b c).2 hb) ih

/-! ## The law -/

/-- What the retry comes to if `i` is the first attempt that stops it : as its last attempt it
counts one more than there are retries. -/
def lawful (p : Plan ε α) (i : Nat) : Except (Error ε) α :=
  p.conclusion (.ofNat (p.retries + 1)) (.ofNat (p.retries + 1)) i

omit [Described ε] in
/-- With as many attempts as can be counted the verdict is what the law says. -/
theorem verdict_eq_lawful (hp : p.retries + 1 < UInt32.size) (i : Nat) :
    p.verdict i = p.lawful i := by
  have hordinal : p.config.maxRetries + 1 = UInt32.ofNat (p.retries + 1) := by
    simp [retries, UInt32.ofNat_add]
  have hattempts : p.config.maxAttempts = UInt32.ofNat (p.retries + 1) := by
    rw [Config.maxAttempts, if_neg, hordinal]
    intro heq
    rw [retries, heq] at hp
    exact absurd hp (by decide)
  rw [verdict, lawful, hordinal, hattempts]

/-- The account of a retry that was stopped by the attempt `i`. -/
structure Lawful (p : Plan ε α) (handle : Cancellation) (i : Nat)
    (turns : List (Trying ε α × World)) (result : Except (Error ε) α) : Prop where
  result : result = p.lawful i
  attempts : ((p.under handle).callTimes turns).length = i + 1
  waits : (turns.countP fun t => beginsPause ((p.under handle).turn t.1 t.2).progress) = i
  /-- The turns that ask the predicate ask it, in turn, about the failures of the attempts made, but
  for the last attempt allowed. -/
  judged : open scoped Classical in
    List.Forall₂ (p.Consults handle) (turns.filter fun t => ∃ e, p.Consults handle t e)
      (p.failures (min (i + 1) p.retries))

/-- Whatever others do, a retry that finishes before its handle has ended has come to what the first
attempt that stops it makes of it. -/
theorem lawful_of_course (hp : p.retries + 1 < UInt32.size) (hdeadline : handle.deadline? = none)
    {i : Nat} (hi : IsLeast {j | p.Stops j} i) {w₀ w : World} {turns : List (Trying ε α × World)}
    {result : Except (Error ε) α} (h : (p.under handle).Course w₀ turns (.finished result) w)
    (hlive : w.tokens.isCancelled handle.token = false) : p.Lawful handle i turns result := by
  classical
  obtain ⟨m, hstanding, hledger⟩ := keeps_to_schedule h
  obtain ⟨j, hstops, hj, rfl, rfl⟩ :=
    hstanding.settled_of_live (Cancellation.check_eq_none_of_no_deadline hdeadline hlive)
  obtain rfl : i = j := Nat.le_antisymm (hi.2 hstops) (Nat.le_of_not_lt fun hlt => hj i hlt hi.1)
  refine ⟨verdict_eq_lawful hp i, ?_, hledger.waits, ?_⟩
  · rw [hledger.attempts, List.length_map, List.length_range]
  · rw [← hledger.judged]
    exact forall₂_filterMap (R := p.Consults handle) (fun _ _ => consults_iff) turns

/-- What a retry alone keeps of its world : a handle that never ends, its own or another. -/
theorem kept_alone (p : Plan ε α) (handle : Cancellation) {free : Cancellation} :
    World.Kept (p.under handle) fun w => w.Steady ∧ free.NeverEnds w where
  turn s w h := by
    rcases p.turn_world handle s w with hworld | hworld <;> rw [hworld]
    · exact h
    · exact ⟨h.1, h.2.called⟩
  background h := ⟨World.steady_background h.1, h.2.background⟩
  advance t h := ⟨h.1, h.2.advance t⟩

end Plan

/-- The law of retries, for an activity that retries operations with outcomes listed in advance :
there is a first attempt that stops it, and the account of the activity is as that attempt has it
whenever it finishes before its handle has ended. Alone it does finish, and under this handle. -/
def ObeysLaw [Described ε] (q : Activity (Trying ε α) (Except (Error ε) α)) (p : Plan ε α)
    (handle : Cancellation) (w₀ : World) : Prop :=
  ∃ i, IsLeast {j | p.Stops j} i ∧
    (∀ turns result w, q.Course w₀ turns (.finished result) w →
      w.tokens.isCancelled handle.token = false → p.Lawful handle i turns result) ∧
    ∃ fuel₀ turns w events, q.Course w₀ turns (.finished (p.lawful i)) w ∧
      p.Lawful handle i turns (p.lawful i) ∧ w.tokens.isCancelled handle.token = false ∧
      ∀ fuel ≥ fuel₀, Session.run fuel (.alone q w₀) = ⟨w, [⟨q, .finished (p.lawful i)⟩], events⟩

/-- Every plan obeys the law under a handle that never ends. -/
theorem Plan.obeysLaw [Described ε] (p : Plan ε α) (hp : p.retries + 1 < UInt32.size)
    (handle : Cancellation) (w₀ : World) (hsteady : w₀.Steady) (hhandle : handle.NeverEnds w₀) :
    ObeysLaw (p.under handle) p handle w₀ := by
  classical
  have hexists : ∃ j, p.Stops j := ⟨_, p.stops_retries⟩
  have hi : IsLeast {j | p.Stops j} (Nat.find hexists) :=
    ⟨Nat.find_spec hexists, fun j hj => Nat.find_min' hexists hj⟩
  refine ⟨_, hi, fun turns result w h => lawful_of_course hp hhandle.deadline hi h, ?_⟩
  obtain ⟨fuel₀, turns, result, w, events, hcourse, hw, hrun⟩ :=
    Activity.ends_alone (p.kept_alone handle) (fun h => h.1) length_turns_le ⟨hsteady, hhandle⟩
  have hlawful := lawful_of_course hp hhandle.deadline hi hcourse hw.2.live
  have hresult := hlawful.result
  subst hresult
  exact ⟨fuel₀, turns, w, events, hcourse, hlawful, hw.2.live, hrun⟩

/-- Under a handle that never ends every retry obeys the law for its predicate, and one for every
failure alike and one for transient failures are the cases of the constant predicate and of
`isRetryable`. -/
theorem outcome_law [Described ε] (c : Config) (hc : c.maxRetries.toNat + 1 < UInt32.size)
    (handle : Cancellation) (samples : Nat → Float) (outcomes : Nat → Outcome ε α) (w₀ : World)
    (hsteady : w₀.Steady) (hhandle : handle.NeverEnds w₀) :
    (∀ worth : ε → Bool, ObeysLaw (execute c handle worth samples (operations outcomes))
      ⟨c, worth, samples, outcomes⟩ handle w₀) ∧
    ObeysLaw (run c handle samples (operations outcomes))
      ⟨c, fun _ => true, samples, outcomes⟩ handle w₀ ∧
    ∀ [Chained ε], ObeysLaw (runClassified c handle samples (operations outcomes))
      ⟨c, isRetryable, samples, outcomes⟩ handle w₀ := by
  have hlaw : ∀ worth : ε → Bool, ObeysLaw (execute c handle worth samples (operations outcomes))
      ⟨c, worth, samples, outcomes⟩ handle w₀ :=
    fun worth => Plan.obeysLaw ⟨c, worth, samples, outcomes⟩ hc handle w₀ hsteady hhandle
  exact ⟨hlaw, hlaw _, hlaw _⟩

/-- Two failures that take their time, and then a success. -/
theorem outcome_law_of_two_failures :
    let outcomes : Nat → Outcome IoError Nat
      | 0 | 1 => ⟨some Time.second, .error ⟨.timedOut, none⟩⟩
      | _ + 2 => ⟨none, .ok 7⟩
    let q := run { maxRetries := 3 } { token := ⟨[0]⟩ } (fun _ => 0) (operations outcomes)
    ∃ fuel₀ turns, (q.callTimes turns).length = 3 ∧ ∀ fuel ≥ fuel₀, ∃ w events,
      q.Course {} turns (.finished (.ok 7)) w ∧
        Session.run fuel (.alone q {}) = ⟨w, [⟨q, .finished (.ok 7)⟩], events⟩ := by
  intro outcomes q
  obtain ⟨i, hi, -, fuel₀, turns, w, events, hcourse, hlawful, -, hrun⟩ :=
    (outcome_law { maxRetries := 3 } (by decide) { token := ⟨[0]⟩ } (fun _ => 0) outcomes {}
      (by rintro c ⟨⟩) ⟨rfl, rfl, by rintro c ⟨⟩⟩).2.1
  have hstops : ∀ j, Plan.Stops ⟨{ maxRetries := 3 }, fun _ => true, fun _ => 0, outcomes⟩ j ↔
      2 ≤ j := by
    rintro (_ | _ | j)
    · simp [Plan.Stops, Plan.retries, outcomes]
    · simp [Plan.Stops, Plan.retries, outcomes]
    · exact ⟨fun _ => Nat.le_add_left 2 j, fun _ => trivial⟩
  have hi2 : i = 2 := Nat.le_antisymm (hi.2 ((hstops 2).2 (Nat.le_refl 2))) ((hstops i).1 hi.1)
  subst hi2
  exact ⟨fuel₀, turns, hlawful.attempts, fun fuel hfuel => ⟨w, events, hcourse, hrun fuel hfuel⟩⟩

end Retry

end Resilience
