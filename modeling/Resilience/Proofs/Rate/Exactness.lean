import Mathlib.Data.Rat.Floor
import Resilience.Proofs.Rate.Bucket

/-!
# Refills in unbounded numbers

A refill holds three numbers to their widths : the product of nanoseconds and rate, the tokens
earned, and the sum of these and the tokens there are. `Bucket.refillKeeping` is a refill under
some of these limits only, and under all of them it is `Bucket.refill`.

Whichever limits are kept, the outcome is that of unbounded numbers (`Bucket.refillKeeping_eq`).
Numbers do get cut off : the longest duration at the largest rate earns more tokens than can be
held. But the sum is held to the capacity in the end, and each limit leaves room for all it takes to
fill a bucket, so that what it cuts off is lost to the capacity in any case (`Limit.min_held`).

The buckets that a run can come to are the lawful ones, with any number of tokens up to the capacity
and any instant of the last refill (`Bucket.lawful_iff_exists_run`).
-/

namespace Resilience.Rate

/-! ## Limits that may be dropped -/

/-- Where a refill holds a number to its width. -/
inductive Limit where
  /-- The product of nanoseconds and rate. -/
  | product
  /-- The tokens earned. -/
  | earned
  /-- The tokens there are and those earned. -/
  | sum
deriving DecidableEq, Repr

namespace Limit

/-- The number that is not exceeded. -/
def value : Limit → Nat
  | .product => productLimit
  | .earned => tokenLimit
  | .sum => tokenLimit

/-- `n` held to the limit, if the limit is kept. -/
def held (kept : Limit → Bool) (limit : Limit) (n : Nat) : Nat :=
  if kept limit then min n limit.value else n

/-- A limit does not show under a smaller one. -/
theorem min_held (kept : Limit → Bool) {limit : Limit} {m : Nat} (h : m ≤ limit.value) (n : Nat) :
    min (limit.held kept n) m = min n m := by
  unfold held
  split <;> omega

end Limit

/-- Whole tokens earned in `elapsed` under the limits that are kept. -/
def earnedKeeping (kept : Limit → Bool) (elapsed rate : Nat) : Nat :=
  Limit.held kept .earned (Limit.held kept .product (elapsed * rate) / Time.second)

/-- Up to what fills a bucket, the limits make no difference to the tokens earned. -/
theorem min_earnedKeeping {capacity : Nat} (h : capacity ≤ Number.word32Limit)
    (kept : Limit → Bool) (elapsed rate : Nat) :
    min (earnedKeeping kept elapsed rate) capacity =
      min (elapsed * rate / Time.second) capacity := by
  have hproduct : capacity * Time.second ≤ Limit.product.value :=
    (Nat.mul_le_mul_right _ h).trans (by decide)
  have hearned : capacity ≤ Limit.earned.value := h.trans (by decide)
  have hheld := Limit.min_held kept hproduct (elapsed * rate)
  rw [earnedKeeping, Limit.min_held kept hearned]
  simp only [Time.second] at *
  omega

namespace Bucket

/-- A refill under the limits that are kept. -/
def refillKeeping (b : Bucket) (kept : Limit → Bool) (now : Nat) : Bucket :=
  let earned := earnedKeeping kept (now - b.lastRefill) b.rate
  if earned = 0 then b
  else { b with
    tokens := min (Limit.held kept .sum (b.tokens + earned)) b.capacity
    lastRefill := now }

theorem refill_eq_refillKeeping (b : Bucket) (now : Nat) :
    b.refill now = b.refillKeeping (fun _ => true) now := rfl

/-- A refill, by numbers that nothing is cut off from. -/
theorem refillKeeping_eq {capacity rate : Nat} {b : Bucket} (h : b.Lawful capacity rate)
    (hpos : 0 < capacity) (hcapacity : capacity ≤ Number.word32Limit) (kept : Limit → Bool)
    (now : Nat) : b.refillKeeping kept now =
      let earned := (now - b.lastRefill) * rate / Time.second
      { b with
        tokens := min capacity (b.tokens + earned)
        lastRefill := if 1 ≤ earned then now else b.lastRefill } := by
  obtain ⟨rfl, rfl, htokens⟩ := h
  have hearned := min_earnedKeeping hcapacity kept (now - b.lastRefill) b.rate
  have hsum : b.capacity ≤ Limit.sum.value := hcapacity.trans (by decide)
  simp only [refillKeeping, Limit.min_held kept hsum]
  generalize earnedKeeping kept (now - b.lastRefill) b.rate = credited at *
  generalize (now - b.lastRefill) * b.rate / Time.second = earned at *
  by_cases hnone : credited = 0
  · -- the capacity is not zero, so that nothing is earned without limits either
    have hzero : earned = 0 := by omega
    rw [if_pos hnone, if_neg (by omega), hzero, Nat.add_zero, Nat.min_eq_right htokens]
  · have hsame : min (b.tokens + credited) b.capacity = min b.capacity (b.tokens + earned) := by
      omega
    rw [if_neg hnone, if_pos (by omega), hsame]

/-- At the largest rate the product of the longest duration can be held, but it is worth more tokens
than can be, and these are cut off once more beside the token there is. The largest bucket is just
full after it. -/
example : Time.longest * Number.word32Limit ≤ productLimit ∧
    tokenLimit < Time.longest * Number.word32Limit / Time.second ∧
    ({ full 0xffffffff 0xffffffff 0 with tokens := 1 }.refill Time.longest).tokens =
      Number.word32Limit := by
  decide

/-! ## Buckets that a run can come to -/

/-- Tokens taken at the instant of the last refill, while there are any. -/
theorem run_replicate_take (b : Bucket) {n : Nat} (h : n ≤ b.tokens) :
    b.run (List.replicate n ⟨b.lastRefill, .take⟩) = { b with tokens := b.tokens - n } := by
  induction n with
  | zero => rfl
  | succ n ih =>
    have hnow : ({ b with tokens := b.tokens - n } : Bucket).refill b.lastRefill =
        { b with tokens := b.tokens - n } := refill_lastRefill _
    rw [List.replicate_succ', run_snoc, ih (by omega), call]
    simp only [take_eq, hnow]
    rfl

/-- A lawful bucket has been full at the instant of its last refill, and drained since. -/
theorem lawful_iff_exists_run {capacity rate : UInt32} {b : Bucket} :
    b.Lawful (max capacity.toNat 1) (max rate.toNat 1) ↔
      ∃ born calls, (full capacity rate born).run calls = b := by
  constructor
  · obtain ⟨tokens, _, _, lastRefill⟩ := b
    rintro ⟨rfl, rfl, htokens⟩
    have hdrained := run_replicate_take (full capacity rate lastRefill)
      (Nat.sub_le (max capacity.toNat 1) tokens)
    refine ⟨lastRefill, _, hdrained.trans ?_⟩
    show Bucket.mk (max capacity.toNat 1 - (max capacity.toNat 1 - tokens)) _ _ _ = _
    rw [Nat.sub_sub_self htokens]
    rfl
  · rintro ⟨born, calls, rfl⟩
    exact (lawful_full capacity rate born).run calls

/-- The token counts that a bucket can come to are those up to its capacity, whatever the instant of
its last refill. And whatever it has come to, a refill at any instant, before or after the last one,
leaves the lesser of the capacity and of the tokens there are and the whole quotient of the time
passed and the rate, in unbounded numbers, and the refill clock moves to that instant if the
quotient is at least one and stays otherwise. No limit makes a difference to it : it is the same
refill whichever of them are kept. -/
theorem refill_is_exact (capacity rate : UInt32) :
    (∀ tokens lastRefill : ℕ, tokens ≤ max capacity.toNat 1 ↔ ∃ born calls,
        (full capacity rate born).run calls =
          ⟨tokens, max capacity.toNat 1, max rate.toNat 1, lastRefill⟩) ∧
      ∀ (born : ℕ) (calls : List Call) (now : ℕ),
        let b := (full capacity rate born).run calls
        let c := max capacity.toNat 1
        let r := max rate.toNat 1
        let elapsed : ℤ := max 0 (now - b.lastRefill)
        let earned : ℤ := ⌊(elapsed * r : ℚ) / Time.second⌋
        ((b.refill now).tokens : ℤ) = min (c : ℤ) (b.tokens + earned) ∧
          (b.refill now).lastRefill = (if 1 ≤ earned then now else b.lastRefill) ∧
          (b.refill now).capacity = c ∧ (b.refill now).rate = r ∧
          ∀ kept, b.refillKeeping kept now = b.refill now := by
  constructor
  · intro tokens lastRefill
    rw [← lawful_iff_exists_run]
    exact ⟨fun h => ⟨rfl, rfl, h⟩, Lawful.tokens_le⟩
  · intro born calls now b c r elapsed earned
    have hb : b.Lawful c r := (lawful_full capacity rate born).run calls
    have hpos : 0 < c := Nat.le_max_right _ _
    have hexact := fun kept => refillKeeping_eq hb hpos (max_toNat_le capacity) kept now
    have hrefill := (b.refill_eq_refillKeeping now).trans (hexact _)
    have hearned : earned = ((now - b.lastRefill) * r / Time.second : ℕ) := by
      have helapsed : elapsed = (now - b.lastRefill : ℕ) := by omega
      rw [Int.natCast_div, Nat.cast_mul, ← helapsed, ← Rat.floor_intCast_div_natCast]
      push_cast
      rfl
    refine ⟨?_, ?_, (b.capacity_refill now).trans hb.capacity_eq,
      (b.rate_refill now).trans hb.rate_eq, fun kept => (hexact kept).trans hrefill.symm⟩
    · rw [hrefill, hearned]
      exact_mod_cast rfl
    · rw [hrefill, hearned]
      exact if_congr (by exact_mod_cast Iff.rfl) rfl rfl

end Bucket

end Resilience.Rate
