import Resilience.Rate.Bucket

/-!
# A bucket in use

Calls of a bucket come at any instants, also at earlier ones than those before. `Bucket.run` is the
bucket after a number of calls and `Bucket.grants` lists the instants at which they took a token.
What one call preserves holds after any number of them (`Bucket.run_of_call`) : a bucket keeps its
capacity and its rate, and never holds more tokens than its capacity (`Bucket.Lawful`). A try finds
a token if one is left or one has been earned (`Bucket.Ready`), and otherwise changes nothing.
-/

namespace Resilience.Rate

/-- What is done to a bucket. -/
inductive Action where
  | refill
  | take
  | reset
deriving DecidableEq, Repr

/-- An action and the instant it is given. -/
structure Call where
  time : Nat
  action : Action
deriving DecidableEq, Repr

namespace Bucket

/-- Whether the call takes a token, and the bucket after it. -/
def call (b : Bucket) (c : Call) : Bool × Bucket :=
  match c.action with
  | .refill => (false, b.refill c.time)
  | .take => b.take c.time
  | .reset => (false, b.reset c.time)

/-- The bucket after one call after the other. -/
def run (b : Bucket) (calls : List Call) : Bucket := calls.foldl (fun b c => (b.call c).2) b

/-- The instants at which the calls take a token. -/
def grants (b : Bucket) : List Call → List Nat
  | [] => []
  | c :: calls => (if (b.call c).1 then [c.time] else []) ++ (b.call c).2.grants calls

/-- What every call preserves holds after any number of them. -/
theorem run_of_call {P : Bucket → Prop} (hcall : ∀ b c, P b → P (b.call c).2) {b : Bucket}
    (h : P b) (calls : List Call) : P (b.run calls) := by
  induction calls generalizing b with
  | nil => exact h
  | cons c calls ih => exact ih (hcall b c h)

theorem run_snoc (b : Bucket) (calls : List Call) (c : Call) :
    b.run (calls ++ [c]) = ((b.run calls).call c).2 :=
  List.foldl_append ..

theorem grants_snoc (b : Bucket) (calls : List Call) (c : Call) : b.grants (calls ++ [c]) =
    b.grants calls ++ if ((b.run calls).call c).1 then [c.time] else [] := by
  induction calls generalizing b with
  | nil => exact List.append_nil _
  | cons d calls ih =>
    rw [List.cons_append, grants, ih, grants, List.append_assoc]
    rfl

/-- A token is taken at the instant of a call. -/
theorem mem_grants {b : Bucket} {calls : List Call} {t : Nat} (h : t ∈ b.grants calls) :
    ∃ c ∈ calls, c.time = t := by
  induction calls generalizing b with
  | nil => simp [grants] at h
  | cons c calls ih =>
    rw [grants, List.mem_append] at h
    rcases h with h | h
    · split at h
      · exact ⟨c, List.mem_cons_self, (List.mem_singleton.1 h).symm⟩
      · simp at h
    · obtain ⟨d, hd, hdt⟩ := ih h
      exact ⟨d, List.mem_cons_of_mem _ hd, hdt⟩

/-! ## One refill -/

/-- A refill that earns no whole token leaves the bucket as it was, so that the time counts
later. -/
theorem refill_of_earned_eq_zero {b : Bucket} {now : Nat}
    (h : tokensEarned (now - b.lastRefill) b.rate = 0) : b.refill now = b := by
  rw [refill, if_pos h]

theorem refill_of_earned_ne_zero {b : Bucket} {now : Nat}
    (h : tokensEarned (now - b.lastRefill) b.rate ≠ 0) : b.refill now =
      { b with
        tokens := min (min (b.tokens + tokensEarned (now - b.lastRefill) b.rate) tokenLimit)
          b.capacity
        lastRefill := now } := by
  rw [refill, if_neg h]

/-- What a refill earns is at most the exact quotient. -/
theorem tokensEarned_le (elapsed rate : Nat) :
    tokensEarned elapsed rate ≤ elapsed * rate / Time.second :=
  Nat.le_trans (Nat.min_le_left _ _) (Nat.div_le_div_right (Nat.min_le_left _ _))

/-- Where fewer tokens are earned than can be held, they are the whole quotient. -/
theorem lt_tokensEarned_succ {elapsed rate : Nat} (h : tokensEarned elapsed rate < tokenLimit) :
    elapsed * rate < (tokensEarned elapsed rate + 1) * Time.second := by
  simp only [tokensEarned, productLimit, tokenLimit, Number.word128Limit, Number.wordLimit,
    Time.second] at *
  omega

/-- Nothing is earned for less than a token's worth of time only. -/
theorem lt_of_tokensEarned_eq_zero {elapsed rate : Nat} (h : tokensEarned elapsed rate = 0) :
    elapsed * rate < Time.second := by
  have hlimit : tokensEarned elapsed rate < tokenLimit := by
    rw [h]
    decide
  simpa [h] using lt_tokensEarned_succ hlimit

theorem tokensEarned_zero (rate : Nat) : tokensEarned 0 rate = 0 := by
  simp [tokensEarned]

/-- Tokens are earned only for time that has passed. -/
theorem lastRefill_lt_of_earned_ne_zero {b : Bucket} {now : Nat}
    (h : tokensEarned (now - b.lastRefill) b.rate ≠ 0) : b.lastRefill < now := by
  refine Nat.lt_of_not_le fun hle => h ?_
  rw [Nat.sub_eq_zero_of_le hle, tokensEarned_zero]

/-- At the instant of the last refill there is nothing to add. -/
theorem refill_lastRefill (b : Bucket) : b.refill b.lastRefill = b :=
  refill_of_earned_eq_zero (by rw [Nat.sub_self, tokensEarned_zero])

@[simp] theorem capacity_refill (b : Bucket) (now : Nat) :
    (b.refill now).capacity = b.capacity := by
  simp only [refill]
  split <;> rfl

@[simp] theorem rate_refill (b : Bucket) (now : Nat) : (b.refill now).rate = b.rate := by
  simp only [refill]
  split <;> rfl

/-- A second refill at the same instant does nothing. -/
theorem refill_refill (b : Bucket) (now : Nat) : (b.refill now).refill now = b.refill now := by
  by_cases h : tokensEarned (now - b.lastRefill) b.rate = 0
  · rw [refill_of_earned_eq_zero h, refill_of_earned_eq_zero h]
  · rw [refill_of_earned_ne_zero h]
    exact refill_lastRefill _

/-- A token is taken from the bucket after its refill, if there is one. -/
theorem take_eq (b : Bucket) (now : Nat) : b.take now =
    (decide ((b.refill now).tokens ≠ 0),
      { b.refill now with tokens := (b.refill now).tokens - 1 }) := by
  simp only [take]
  generalize b.refill now = b'
  by_cases h : b'.tokens = 0
  · cases b'
    simp_all
  · simp [h]

/-! ## When there is a token -/

section Ready

variable {b : Bucket} {t : Nat}

/-- A try at `t` finds a token : one is left, or one has been earned since the last refill. -/
def Ready (b : Bucket) (t : Nat) : Prop :=
  b.tokens ≠ 0 ∨ Time.second ≤ (t - b.lastRefill) * b.rate

theorem tokensEarned_eq_zero_of_lt {elapsed rate : Nat} (h : elapsed * rate < Time.second) :
    tokensEarned elapsed rate = 0 :=
  Nat.eq_zero_of_le_zero
    (Nat.le_trans (tokensEarned_le elapsed rate) (Nat.le_of_eq (Nat.div_eq_of_lt h)))

/-- A try that finds no token leaves everything as it is. -/
theorem take_of_not_ready (h : ¬b.Ready t) : b.take t = (false, b) := by
  obtain ⟨htokens, hcredit⟩ := not_or.1 h
  have hrefill := refill_of_earned_eq_zero (tokensEarned_eq_zero_of_lt (Nat.not_le.1 hcredit))
  rw [take, hrefill, if_pos (Decidable.not_not.1 htokens)]

/-- A bucket that is ready has a token after its refill. -/
theorem refill_ne_zero_of_ready (hcapacity : 0 < b.capacity) (h : b.Ready t) :
    (b.refill t).tokens ≠ 0 := by
  by_cases hearned : tokensEarned (t - b.lastRefill) b.rate = 0
  · rw [refill_of_earned_eq_zero hearned]
    exact h.resolve_right (Nat.not_le.2 (lt_of_tokensEarned_eq_zero hearned))
  · have hlimit : 0 < tokenLimit := by decide
    rw [refill_of_earned_ne_zero hearned]
    show min (min (b.tokens + tokensEarned _ b.rate) tokenLimit) b.capacity ≠ 0
    omega

/-- A refusal and a refill exclude each other : what is refused finds the bucket empty with nothing
earned, and leaves it so. -/
theorem take_of_refused (hcapacity : 0 < b.capacity) (h : (b.take t).1 = false) :
    b.take t = (false, b) := by
  refine take_of_not_ready fun hready => ?_
  have htokens := refill_ne_zero_of_ready hcapacity hready
  simp [take_eq, htokens] at h

end Ready

/-! ## Lawful buckets -/

/-- No more tokens than the capacity, which the rate goes with. -/
structure Lawful (capacity rate : Nat) (b : Bucket) : Prop where
  capacity_eq : b.capacity = capacity
  rate_eq : b.rate = rate
  tokens_le : b.tokens ≤ capacity

variable {capacity rate : Nat} {b : Bucket}

/-- A capacity is a number of 32 bits. -/
theorem max_toNat_le (n : UInt32) : max n.toNat 1 ≤ Number.word32Limit := by
  have := n.toNat_lt
  simp only [Number.word32Limit]
  omega

/-- A full bucket of at least one token and at least one a second is lawful. -/
theorem lawful_full (capacity rate : UInt32) (now : Nat) :
    (full capacity rate now).Lawful (max capacity.toNat 1) (max rate.toNat 1) :=
  ⟨rfl, rfl, Nat.le_refl _⟩

theorem Lawful.refill (h : b.Lawful capacity rate) (now : Nat) :
    (b.refill now).Lawful capacity rate := by
  refine ⟨(b.capacity_refill now).trans h.capacity_eq, (b.rate_refill now).trans h.rate_eq, ?_⟩
  by_cases he : tokensEarned (now - b.lastRefill) b.rate = 0
  · rw [refill_of_earned_eq_zero he]
    exact h.tokens_le
  · rw [refill_of_earned_ne_zero he, ← h.capacity_eq]
    exact Nat.min_le_right _ _

theorem Lawful.call (h : b.Lawful capacity rate) (c : Call) :
    (b.call c).2.Lawful capacity rate := by
  unfold Bucket.call
  cases c.action with
  | refill => exact h.refill c.time
  | take =>
    have hr := h.refill c.time
    simp only [take_eq]
    exact ⟨hr.capacity_eq, hr.rate_eq, Nat.le_trans (Nat.sub_le _ _) hr.tokens_le⟩
  | reset => exact ⟨h.capacity_eq, h.rate_eq, Nat.le_of_eq h.capacity_eq⟩

theorem Lawful.run (h : b.Lawful capacity rate) (calls : List Call) :
    (b.run calls).Lawful capacity rate :=
  run_of_call (fun _ c hb => hb.call c) h calls

end Bucket

end Resilience.Rate
