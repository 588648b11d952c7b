import Mathlib.Algebra.Order.Floor.Div
import Resilience.Proofs.Rate.Bucket

/-!
# How many tokens are taken

At an instant `T` a bucket owes no more than the tokens it holds and those it earns from its last
refill to `T` (`Bucket.owed`). A refill never adds to what is owed and a token taken lessens it, so
that the tokens taken up to `T` are at most what is owed at the start (`Bucket.countP_grants_le`).

A full bucket owes its capacity and what is earned from its start, which bounds the tokens taken in
calls of any order. In calls of non-decreasing instants the bound holds of every window, rounded
up : right after a refill less than one token's worth of time is pending.
-/

namespace Resilience.Rate.Bucket

/-- The tokens held and those to be earned from the last refill to `T`. -/
def owed (b : Bucket) (T : Nat) : Nat := b.tokens + (T - b.lastRefill) * b.rate / Time.second

/-- A refill up to `T` does not add to what is owed at `T`. -/
theorem owed_refill_le (b : Bucket) {now T : Nat} (hnow : now ≤ T) :
    (b.refill now).owed T ≤ b.owed T := by
  by_cases he : tokensEarned (now - b.lastRefill) b.rate = 0
  · rw [refill_of_earned_eq_zero he]
  · have hlt := lastRefill_lt_of_earned_ne_zero he
    have hsplit : (now - b.lastRefill) * b.rate + (T - now) * b.rate =
        (T - b.lastRefill) * b.rate := by
      rw [← Nat.add_mul]
      congr 1
      omega
    rw [refill_of_earned_ne_zero he]
    show min (min _ _) _ + (T - now) * b.rate / Time.second ≤ _
    calc min (min (b.tokens + tokensEarned (now - b.lastRefill) b.rate) tokenLimit) b.capacity +
          (T - now) * b.rate / Time.second
        ≤ b.tokens + tokensEarned (now - b.lastRefill) b.rate +
          (T - now) * b.rate / Time.second :=
          Nat.add_le_add_right ((min_le_left _ _).trans (min_le_left _ _)) _
      _ ≤ b.tokens + (now - b.lastRefill) * b.rate / Time.second +
          (T - now) * b.rate / Time.second := by
          gcongr
          exact tokensEarned_le _ _
      _ ≤ b.owed T := by
          rw [owed, ← hsplit, Time.second]
          omega

/-- Up to `T`, a call takes at most what it takes off the debt. -/
theorem owed_call_le (b : Bucket) {c : Call} (hc : c.action ≠ .reset) {T : Nat} (hT : c.time ≤ T) :
    (if (b.call c).1 then 1 else 0) + (b.call c).2.owed T ≤ b.owed T := by
  have hrefill := b.owed_refill_le hT
  unfold call
  cases haction : c.action with
  | refill => simpa using hrefill
  | take =>
    simp only [take_eq, owed] at hrefill ⊢
    split <;> rename_i htokens
    · rw [decide_eq_true_eq] at htokens
      omega
    · omega
  | reset => exact absurd haction hc

/-- Calls that do not come back before `T` take, up to `T`, at most what is owed. -/
theorem countP_grants_le (b : Bucket) {calls : List Call} (hcalls : ∀ c ∈ calls, c.action ≠ .reset)
    {T : Nat} (hT : calls.Pairwise fun c d => d.time ≤ T → c.time ≤ T) :
    (b.grants calls).countP (· ≤ T) ≤ b.owed T := by
  induction calls generalizing b with
  | nil => simp [grants]
  | cons c calls ih =>
    rw [List.pairwise_cons] at hT
    have hrest := ih (b.call c).2 (fun d hd => hcalls d (List.mem_cons_of_mem _ hd)) hT.2
    rw [grants, List.countP_append]
    by_cases hc : c.time ≤ T
    · have hcall := b.owed_call_le (hcalls c List.mem_cons_self) hc
      have hone : (if (b.call c).1 then [c.time] else []).countP (· ≤ T) =
          if (b.call c).1 then 1 else 0 := by
        split <;> simp [hc]
      omega
    · -- nothing is taken up to `T` any more
      have hnone : ((b.call c).2.grants calls).countP (· ≤ T) = 0 := by
        rw [List.countP_eq_zero]
        intro t ht hle
        obtain ⟨d, hd, rfl⟩ := mem_grants ht
        exact hc (hT.1 d hd (by simpa using hle))
      have hfirst : (if (b.call c).1 then [c.time] else []).countP (· ≤ T) = 0 := by
        split <;> simp [hc]
      omega

/-! ## A window of time -/

/-- Right after a refill less than one token's worth of time is pending. -/
theorem pending_refill_lt (b : Bucket) (now : Nat) :
    (now - (b.refill now).lastRefill) * (b.refill now).rate < Time.second := by
  by_cases he : tokensEarned (now - b.lastRefill) b.rate = 0
  · rw [refill_of_earned_eq_zero he]
    exact lt_of_tokensEarned_eq_zero he
  · rw [refill_of_earned_ne_zero he]
    simp [Time.second]

/-- A call refills the bucket first, so that it may as well have been refilled already. -/
theorem call_refill (b : Bucket) {c : Call} (hc : c.action ≠ .reset) :
    (b.refill c.time).call c = b.call c := by
  unfold call
  cases haction : c.action with
  | refill => rw [refill_refill]
  | take => simp only [take, refill_refill]
  | reset => exact absurd haction hc

/-- What a refilled bucket owes at the end `y` of a window is its capacity and what is earned in
the window, rounded up. -/
theorem Lawful.owed_refill_le {capacity rate : Nat} {b : Bucket} (h : b.Lawful capacity rate)
    {x now : Nat} (hx : x ≤ now) (y : Nat) :
    (b.refill now).owed y ≤ capacity + (y - x) * rate ⌈/⌉ Time.second := by
  have hr := h.refill now
  have hpending := b.pending_refill_lt now
  rw [hr.rate_eq] at hpending
  have hsplit : (y - (b.refill now).lastRefill) * rate ≤
      (y - x) * rate + (now - (b.refill now).lastRefill) * rate := by
    rw [← Nat.add_mul]
    exact Nat.mul_le_mul_right _ (by omega)
  have htokens := hr.tokens_le
  rw [owed, hr.rate_eq, Nat.ceilDiv_eq_add_pred_div]
  simp only [Time.second] at *
  omega

/-- In calls of non-decreasing instants, the tokens taken from `x` to `y`. -/
theorem Lawful.countP_window_le {capacity rate : Nat} {b : Bucket} (h : b.Lawful capacity rate)
    {calls : List Call} (hcalls : ∀ c ∈ calls, c.action ≠ .reset)
    (hsorted : calls.Pairwise fun c d => c.time ≤ d.time) (x y : Nat) :
    (b.grants calls).countP (fun t => x ≤ t ∧ t ≤ y) ≤
      capacity + (y - x) * rate ⌈/⌉ Time.second := by
  induction calls generalizing b with
  | nil => simp [grants]
  | cons c calls ih =>
    by_cases hx : x ≤ c.time
    · -- the window has begun : count all that is taken up to its end
      have hgrants : (b.refill c.time).grants (c :: calls) = b.grants (c :: calls) := by
        rw [grants, grants, b.call_refill (hcalls c List.mem_cons_self)]
      calc (b.grants (c :: calls)).countP (fun t => x ≤ t ∧ t ≤ y)
          ≤ (b.grants (c :: calls)).countP (· ≤ y) :=
            List.countP_mono_left fun t _ ht => by simp_all
        _ ≤ (b.refill c.time).owed y := by
            rw [← hgrants]
            exact countP_grants_le _ hcalls (hsorted.imp fun hcd hd => hcd.trans hd)
        _ ≤ _ := h.owed_refill_le hx y
    · have hfirst : (if (b.call c).1 then [c.time] else []).countP
          (fun t => x ≤ t ∧ t ≤ y) = 0 := by
        split <;> simp [hx]
      rw [grants, List.countP_append, hfirst, Nat.zero_add]
      exact ih (h.call c) (fun d hd => hcalls d (List.mem_cons_of_mem _ hd))
        (List.pairwise_cons.1 hsorted).2

/-! ## The bounds -/

/-- A reset brings back the full bucket. -/
theorem reset_run_full (capacity rate : UInt32) (t : Nat) (calls : List Call) (now : Nat) :
    ((full capacity rate t).run calls).reset now = full capacity rate now := by
  have h := (lawful_full capacity rate t).run calls
  rw [reset, h.capacity_eq, h.rate_eq]
  rfl

/-- The latest of `t` and the instants of the calls. -/
def latest (t : Nat) (calls : List Call) : Nat := calls.foldl (fun T c => max T c.time) t

theorem le_latest (t : Nat) (calls : List Call) :
    t ≤ latest t calls ∧ ∀ c ∈ calls, c.time ≤ latest t calls := by
  induction calls generalizing t with
  | nil => simp [latest]
  | cons c calls ih =>
    obtain ⟨hinit, hall⟩ := ih (max t c.time)
    refine ⟨(le_max_left _ _).trans hinit, fun d hd => ?_⟩
    rcases List.mem_cons.1 hd with rfl | hd
    · exact (le_max_right _ _).trans hinit
    · exact hall d hd

/-- A full bucket grants what it holds and what it earns up to the latest call, and no more. -/
theorem length_grants_full_le (capacity rate : UInt32) (start : Nat) {calls : List Call}
    (hcalls : ∀ c ∈ calls, c.action ≠ .reset) :
    ((full capacity rate start).grants calls).length ≤ max capacity.toNat 1 +
      (latest start calls - start) * max rate.toNat 1 / Time.second := by
  obtain ⟨-, hlatest⟩ := le_latest start calls
  have hall : ((full capacity rate start).grants calls).countP (· ≤ latest start calls) =
      ((full capacity rate start).grants calls).length := by
    rw [List.countP_eq_length]
    intro t ht
    obtain ⟨c, hc, rfl⟩ := mem_grants ht
    simpa using hlatest c hc
  rw [← hall]
  exact countP_grants_le _ hcalls (List.pairwise_of_forall_mem_list fun c hc _ _ _ => hlatest c hc)

/-- Without a reset, a bucket that is full at `start`, new or after a reset, gives out no more than
its capacity and the whole tokens earned from `start` to the latest instant, whatever the order of
the instants. If they do not decrease, any window from `x` to `y` of any run sees no more than the
capacity and the tokens earned in it, rounded up. At any time there are no more tokens than the
capacity. -/
theorem admitted_le (capacity rate : UInt32) (born start : Nat) (before calls : List Call)
    (hcalls : ∀ c ∈ calls, c.action ≠ .reset) :
    let b := (full capacity rate born).run before
    let c := max capacity.toNat 1
    let r := max rate.toNat 1
    ((full capacity rate start).grants calls).length ≤
        c + (latest start calls - start) * r / Time.second ∧
      ((b.reset start).grants calls).length ≤
        c + (latest start calls - start) * r / Time.second ∧
      (calls.Pairwise (fun d e => d.time ≤ e.time) → ∀ x y : Nat,
        (b.grants calls).countP (fun t => x ≤ t ∧ t ≤ y) ≤ c + (y - x) * r ⌈/⌉ Time.second) ∧
      b.capacity = c ∧ b.tokens ≤ c := by
  intro b c r
  have hb : b.Lawful c r := (lawful_full capacity rate born).run before
  have hfull := length_grants_full_le capacity rate start hcalls
  refine ⟨hfull, ?_, fun hsorted x y => hb.countP_window_le hcalls hsorted x y, hb.capacity_eq,
    hb.tokens_le⟩
  rw [reset_run_full]
  exact hfull

/-- A full bucket of one token that earns ten a second, asked at 50 ms and at 100 ms : both get a
token, though only half of one is earned in between. The other half was pending. -/
theorem admitted_le_of_pending :
    let calls : List Call := [⟨50 * Time.millisecond, .take⟩, ⟨100 * Time.millisecond, .take⟩]
    (∀ c ∈ calls, c.action ≠ .reset) ∧ calls.Pairwise (fun d e => d.time ≤ e.time) ∧
      (full 1 10 0).grants calls = [50 * Time.millisecond, 100 * Time.millisecond] ∧
      2 ≤ 1 + 50 * Time.millisecond * 10 ⌈/⌉ Time.second := by
  intro calls
  have hcalls : ∀ c ∈ calls, c.action ≠ .reset := by decide
  have hsorted : calls.Pairwise fun d e => d.time ≤ e.time := by decide
  obtain ⟨-, -, hwindow, -⟩ := admitted_le 1 10 0 0 [] calls hcalls
  exact ⟨hcalls, hsorted, by decide,
    hwindow hsorted (50 * Time.millisecond) (100 * Time.millisecond)⟩

end Resilience.Rate.Bucket
