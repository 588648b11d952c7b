import Resilience.Proofs.Rate.Admission

/-!
# What truncation loses

A refill credits whole tokens only. When it credits any the refill clock moves to the present, and
the fraction of a token that was pending is lost ; when it credits none the clock stays, and nothing
is. So a fraction is lost only beside at least one whole token, and of all the tokens that the move
of the refill clock is worth more than half are credited (`Bucket.Accrued`), as long as no refill is
cut off at the capacity.

One call keeps this account (`Bucket.accrued_call`), accounts that follow each other add up
(`Bucket.Accrued.trans`), and so any number of calls keep it, at whatever instants they come. The
time that is still to be credited after a call is worth less than one token
(`Bucket.pending_call_lt`).
-/

namespace Resilience.Rate.Bucket

/-- A refill at `now` is cut off at the capacity. -/
def Clips (b : Bucket) (now : Nat) : Prop :=
  b.capacity < b.tokens + tokensEarned (now - b.lastRefill) b.rate

/-- No refill of these calls is cut off at the capacity. -/
def Unclipped (b : Bucket) : List Call → Prop
  | [] => True
  | c :: calls => ¬b.Clips c.time ∧ (b.call c).2.Unclipped calls

instance (b : Bucket) (now : Nat) : Decidable (b.Clips now) := Nat.decLt _ _

instance decidableUnclipped (b : Bucket) : ∀ calls, Decidable (b.Unclipped calls)
  | [] => .isTrue trivial
  | c :: calls => @instDecidableAnd _ _ _ (decidableUnclipped (b.call c).2 calls)

/-- Between `b` and `b'` so many tokens were taken and so many credited. Those credited are worth at
most the time by which the refill clock moved and, if there are any, more than half of it. -/
structure Accrued (b b' : Bucket) (taken credited : Nat) : Prop where
  rate_eq : b'.rate = b.rate
  tokens_add : b'.tokens + taken = b.tokens + credited
  lastRefill_le : b.lastRefill ≤ b'.lastRefill
  credited_le : credited * Time.second ≤ (b'.lastRefill - b.lastRefill) * b.rate
  le_credited : (b'.lastRefill - b.lastRefill) * b.rate + credited ≤ 2 * credited * Time.second

namespace Accrued

variable {b b' b'' : Bucket} {taken taken' credited credited' : Nat}

theorem refl (b : Bucket) : b.Accrued b 0 0 where
  rate_eq := rfl
  tokens_add := rfl
  lastRefill_le := Nat.le_refl _
  credited_le := by simp
  le_credited := by simp

theorem trans (h : b.Accrued b' taken credited) (h' : b'.Accrued b'' taken' credited') :
    b.Accrued b'' (taken + taken') (credited + credited') := by
  obtain ⟨hrate, htokens, hle, hcredited, hworth⟩ := h
  obtain ⟨hrate', htokens', hle', hcredited', hworth'⟩ := h'
  have hsplit : (b''.lastRefill - b.lastRefill) * b.rate =
      (b'.lastRefill - b.lastRefill) * b.rate + (b''.lastRefill - b'.lastRefill) * b.rate := by
    rw [← Nat.add_mul]
    congr 1
    omega
  rw [hrate] at hcredited' hworth'
  refine ⟨hrate'.trans hrate, by omega, hle.trans hle', ?_, ?_⟩
  · rw [hsplit, Nat.add_mul]
    omega
  · rw [hsplit, Nat.mul_add, Nat.add_mul]
    omega

/-- The refill clock moved only if a token was credited, and then the bound is strict. -/
theorem lt_of_lastRefill_lt (h : b.Accrued b' taken credited) (hrate : 0 < b.rate)
    (hmoved : b.lastRefill < b'.lastRefill) :
    (b'.lastRefill - b.lastRefill) * b.rate < 2 * credited * Time.second := by
  have hworth := h.le_credited
  have hpos : 0 < (b'.lastRefill - b.lastRefill) * b.rate :=
    Nat.mul_pos (Nat.sub_pos_of_lt hmoved) hrate
  have hcredited : credited ≠ 0 := by
    rintro rfl
    omega
  omega

end Accrued

/-! ## One call -/

/-- A refill that is not cut off. -/
theorem accrued_refill {capacity rate : Nat} {b : Bucket} (h : b.Lawful capacity rate)
    (hcapacity : capacity < tokenLimit) {now : Nat} (hclip : ¬b.Clips now) :
    b.Accrued (b.refill now) 0 (tokensEarned (now - b.lastRefill) b.rate) := by
  by_cases he : tokensEarned (now - b.lastRefill) b.rate = 0
  · rw [refill_of_earned_eq_zero he, he]
    exact .refl b
  · have hroom : b.tokens + tokensEarned (now - b.lastRefill) b.rate ≤ b.capacity :=
      Nat.le_of_not_lt hclip
    rw [h.capacity_eq] at hroom
    have hquotient : (now - b.lastRefill) * b.rate <
        (tokensEarned (now - b.lastRefill) b.rate + 1) * Time.second :=
      lt_tokensEarned_succ (by omega)
    have hle := tokensEarned_le (now - b.lastRefill) b.rate
    have hmoved : b.lastRefill < now := lastRefill_lt_of_earned_ne_zero he
    rw [refill_of_earned_ne_zero he]
    refine ⟨rfl, ?_, Nat.le_of_lt hmoved, ?_, ?_⟩
    · show min (min (b.tokens + _) tokenLimit) b.capacity + 0 = _
      have hheld : b.tokens + tokensEarned (now - b.lastRefill) b.rate ≤ tokenLimit := by omega
      rw [Nat.min_eq_left hheld, h.capacity_eq, Nat.min_eq_left hroom, Nat.add_zero]
    · exact (Nat.mul_le_mul_right _ hle).trans (Nat.div_mul_le_self _ _)
    · -- one token more would be too much, and it is no more than those credited
      have hone : (tokensEarned (now - b.lastRefill) b.rate + 1) * Time.second +
          tokensEarned (now - b.lastRefill) b.rate ≤
            2 * tokensEarned (now - b.lastRefill) b.rate * Time.second + 1 := by
        simp only [Time.second]
        omega
      show (now - b.lastRefill) * b.rate + _ ≤ _
      omega

/-- A call that clips nothing takes a token or none, and credits what has been earned. -/
theorem accrued_call {capacity rate : Nat} {b : Bucket} (h : b.Lawful capacity rate)
    (hcapacity : capacity < tokenLimit) {c : Call} (hc : c.action ≠ .reset)
    (hclip : ¬b.Clips c.time) :
    b.Accrued (b.call c).2 (if (b.call c).1 then 1 else 0)
      (tokensEarned (c.time - b.lastRefill) b.rate) := by
  have hrefill := accrued_refill h hcapacity hclip
  unfold call
  cases haction : c.action with
  | refill => exact hrefill
  | take =>
    simp only [take_eq]
    refine ⟨hrefill.rate_eq, ?_, hrefill.lastRefill_le, hrefill.credited_le, hrefill.le_credited⟩
    have htokens := hrefill.tokens_add
    by_cases hnone : (b.refill c.time).tokens = 0
    · simp only [hnone, ne_eq, not_true_eq_false, decide_false, Bool.false_eq_true, if_false] at *
      omega
    · simp only [hnone, ne_eq, not_false_eq_true, decide_true, if_true]
      omega
  | reset => exact absurd haction hc

/-- Calls none of whose refills is cut off. -/
theorem accrued_run {capacity rate : Nat} {b : Bucket} (h : b.Lawful capacity rate)
    (hcapacity : capacity < tokenLimit) {calls : List Call}
    (hcalls : ∀ c ∈ calls, c.action ≠ .reset) (hclip : b.Unclipped calls) :
    ∃ credited, b.Accrued (b.run calls) (b.grants calls).length credited := by
  induction calls generalizing b with
  | nil => exact ⟨0, .refl b⟩
  | cons c calls ih =>
    have hcall := accrued_call h hcapacity (hcalls c List.mem_cons_self) hclip.1
    obtain ⟨credited, hrest⟩ :=
      ih (h.call c) (fun d hd => hcalls d (List.mem_cons_of_mem _ hd)) hclip.2
    have hlength : (b.grants (c :: calls)).length =
        (if (b.call c).1 then 1 else 0) + ((b.call c).2.grants calls).length := by
      rw [grants, List.length_append]
      congr 1
      split <;> rfl
    rw [hlength]
    exact ⟨_, hcall.trans hrest⟩

/-! ## What is pending -/

theorem lastRefill_call_le (b : Bucket) (c : Call) :
    (b.call c).2.lastRefill ≤ max b.lastRefill c.time := by
  have hrefill : (b.refill c.time).lastRefill ≤ max b.lastRefill c.time := by
    simp only [refill]
    split
    · exact Nat.le_max_left _ _
    · exact Nat.le_max_right _ _
  unfold call
  cases c.action with
  | refill => exact hrefill
  | take =>
    simp only [take_eq]
    exact hrefill
  | reset => exact Nat.le_max_right _ _

/-- The refill clock never runs ahead of the latest instant so far. -/
theorem lastRefill_run_le (b : Bucket) (calls : List Call) :
    (b.run calls).lastRefill ≤ latest b.lastRefill calls := by
  have hmono : ∀ {t t' : Nat}, t ≤ t' → ∀ calls, latest t calls ≤ latest t' calls := by
    intro t t' ht calls
    induction calls generalizing t t' with
    | nil => exact ht
    | cons c calls ih => exact ih (max_le_max_right c.time ht)
  induction calls generalizing b with
  | nil => exact Nat.le_refl _
  | cons c calls ih => exact (ih (b.call c).2).trans (hmono (b.lastRefill_call_le c) calls)

/-- After a call less than one token's worth of time is pending. -/
theorem pending_call_lt (b : Bucket) {c : Call} (hc : c.action ≠ .reset) :
    (c.time - (b.call c).2.lastRefill) * (b.call c).2.rate < Time.second := by
  have hrefill := b.pending_refill_lt c.time
  unfold call
  cases haction : c.action with
  | refill => exact hrefill
  | take =>
    simp only [take_eq]
    exact hrefill
  | reset => exact absurd haction hc

/-- Whatever the order of the instants, calls that move the refill clock of a bucket and none of
whose refills is cut off at the capacity credit more than half of the tokens that the move is worth,
and no more than all of them. And whenever a bucket is called at the latest instant so far, less
than one token's worth of time is pending after the call. -/
theorem more_than_half_credited (capacity rate : UInt32) (born : Nat) (before calls : List Call)
    (hcalls : ∀ c ∈ calls, c.action ≠ .reset) :
    let b := (full capacity rate born).run before
    let b' := b.run calls
    let r : ℤ := max rate.toNat 1
    let moved : ℤ := b'.lastRefill - b.lastRefill
    let credited : ℤ := b'.tokens - b.tokens + (b.grants calls).length
    (b.Unclipped calls → 0 < moved →
        moved * r < 2 * credited * Time.second ∧ credited * Time.second ≤ moved * r) ∧
      ∀ c : Call, c.action ≠ .reset → latest born (before ++ calls) ≤ c.time →
        (b'.call c).2.lastRefill ≤ c.time ∧
          (c.time - (b'.call c).2.lastRefill) * r < Time.second := by
  intro b b' r moved credited
  have hb : b.Lawful (max capacity.toNat 1) (max rate.toNat 1) :=
    (lawful_full capacity rate born).run before
  have hr : ((max rate.toNat 1 : ℕ) : ℤ) = r := by omega
  refine ⟨fun hclip hmoved => ?_, fun c hc hlatest => ?_⟩
  · have hcapacity : max capacity.toNat 1 < tokenLimit :=
      Nat.lt_of_le_of_lt (max_toNat_le capacity) (by decide)
    obtain ⟨n, haccrued⟩ : ∃ n, b.Accrued b' (b.grants calls).length n :=
      accrued_run hb hcapacity hcalls hclip
    have htokens := haccrued.tokens_add
    have hle := haccrued.lastRefill_le
    have hworth := haccrued.credited_le
    have hlt := haccrued.lt_of_lastRefill_lt (by rw [hb.rate_eq]; omega) (by omega)
    have hn : credited = n := by omega
    have hmul : ((b'.lastRefill - b.lastRefill) * b.rate : ℕ) = moved * r := by
      rw [hb.rate_eq, Nat.cast_mul, Nat.cast_sub hle, hr]
    rw [hn, ← hmul]
    exact ⟨by exact_mod_cast hlt, by exact_mod_cast hworth⟩
  · have hb' : b' = (full capacity rate born).run (before ++ calls) :=
      (List.foldl_append ..).symm
    have hlatest' : b'.lastRefill ≤ latest born (before ++ calls) := hb' ▸ lastRefill_run_le _ _
    have hle : (b'.call c).2.lastRefill ≤ c.time :=
      (b'.lastRefill_call_le c).trans (max_le (hlatest'.trans hlatest) (le_refl _))
    have hrate : (b'.call c).2.rate = max rate.toNat 1 := ((hb.run calls).call c).rate_eq
    have hpending := b'.pending_call_lt hc
    rw [hrate] at hpending
    refine ⟨hle, ?_⟩
    have hcast : ((c.time - (b'.call c).2.lastRefill : ℕ) : ℤ) =
        c.time - (b'.call c).2.lastRefill := Nat.cast_sub hle
    rw [← hcast, ← hr]
    exact_mod_cast hpending

/-- A bucket that earns ten tokens a second, drained, is called at 199 ms, at the earlier instant of
100 ms and at 298 ms. One token is credited, of almost two that the time is worth, and almost one is
pending in the end. -/
theorem more_than_half_credited_of_late_calls :
    let b := (full 2 10 0).run [⟨0, .take⟩, ⟨0, .take⟩]
    let calls : List Call := [⟨199 * Time.millisecond, .refill⟩, ⟨100 * Time.millisecond, .refill⟩]
    let b' := b.run calls
    let c : Call := ⟨298 * Time.millisecond, .take⟩
    let r : ℤ := max (10 : UInt32).toNat 1
    (∀ c ∈ calls, c.action ≠ .reset) ∧ b.Unclipped calls ∧
      b.lastRefill = 0 ∧ b'.lastRefill = 199 * Time.millisecond ∧ b.tokens = 0 ∧ b'.tokens = 1 ∧
      ((b'.lastRefill : ℤ) - b.lastRefill) * r <
        2 * (b'.tokens - b.tokens + (b.grants calls).length) * Time.second ∧
      (b'.call c).2.lastRefill = 199 * Time.millisecond ∧
      ((c.time : ℤ) - (b'.call c).2.lastRefill) * r < Time.second := by
  intro b calls b' c r
  have hcalls : ∀ c ∈ calls, c.action ≠ .reset := by decide
  have hclip : b.Unclipped calls := by decide
  have hmoved : b.lastRefill < b'.lastRefill := by decide
  have hlatest : latest 0 ([⟨0, .take⟩, ⟨0, .take⟩] ++ calls) ≤ c.time := by
    simp [calls, c, latest, Time.millisecond]
  obtain ⟨hcredited, hpending⟩ :=
    more_than_half_credited 2 10 0 [⟨0, .take⟩, ⟨0, .take⟩] calls hcalls
  obtain ⟨hlt, -⟩ := hcredited hclip (Int.sub_pos_of_lt (by exact_mod_cast hmoved))
  obtain ⟨-, hlt'⟩ := hpending c (by decide) hlatest
  exact ⟨hcalls, hclip, rfl, by decide, by decide, by decide, hlt, by decide, hlt'⟩

end Resilience.Rate.Bucket
