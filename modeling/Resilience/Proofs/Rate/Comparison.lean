import Mathlib.Data.List.Induction
import Resilience.Proofs.Rate.Bucket

/-!
# Buckets side by side

Two runs of a bucket are compared at each point they have in common.

In the first comparison one run makes calls that the other goes without (`Marked`). If all of them
are tries that are refused, then both runs find the bucket in the same state everywhere
(`Bucket.runs_agree`), whichever of the two the refusals are read off : a refused try finds the
bucket empty with nothing earned, and leaves it so (`Bucket.take_of_refused`).

In the second one the same calls are made of a smaller and of a larger bucket. They need not be
granted alike, so that the counts drift apart and meet again at the capacities, but the larger
bucket never falls behind, nor gets ahead by more than the difference of the capacities
(`Bucket.Below`).
-/

namespace Resilience.Rate

/-! ## Calls that a run goes without -/

/-- A call of the longer run, and whether the shorter one makes it too. -/
structure Marked where
  call : Call
  stays : Bool
deriving DecidableEq, Repr

namespace Marked

/-- The calls of the longer run. -/
def whole (calls : List Marked) : List Call := calls.map Marked.call

/-- The calls of the shorter run. -/
def rest (calls : List Marked) : List Call := (calls.filter Marked.stays).map Marked.call

theorem whole_snoc (calls : List Marked) (c : Marked) :
    whole (calls ++ [c]) = whole calls ++ [c.call] :=
  List.map_append ..

theorem rest_snoc (calls : List Marked) (c : Marked) :
    rest (calls ++ [c]) = if c.stays then rest calls ++ [c.call] else rest calls := by
  rw [rest, List.filter_append, List.map_append]
  cases hc : c.stays with
  | true => simp [rest, hc]
  | false => simp [rest, hc]

end Marked

namespace Bucket

open Marked (whole rest)

/-- The calls that do not stay are tries, each refused where `made` are the calls before it. -/
def Refuses (b : Bucket) (made : List Marked → List Call) (calls : List Marked) : Prop :=
  ∀ n, (h : n < calls.length) → calls[n].stays = false →
    calls[n].call.action = .take ∧ ((b.run (made (calls.take n))).call calls[n].call).1 = false

instance (b : Bucket) (made : List Marked → List Call) (calls : List Marked) :
    Decidable (b.Refuses made calls) :=
  inferInstanceAs (Decidable (∀ n, (h : n < calls.length) → _ → _))

namespace Refuses

variable {b : Bucket} {made : List Marked → List Call} {calls : List Marked} {c : Marked}

theorem take (h : b.Refuses made calls) (n : Nat) : b.Refuses made (calls.take n) := by
  intro k hk hstays
  rw [List.length_take, Nat.lt_min] at hk
  rw [List.getElem_take] at hstays ⊢
  rw [List.take_take, Nat.min_eq_left (Nat.le_of_lt hk.1)]
  exact h k hk.2 hstays

theorem init (h : b.Refuses made (calls ++ [c])) : b.Refuses made calls := by
  simpa using h.take calls.length

theorem last (h : b.Refuses made (calls ++ [c])) (hc : c.stays = false) :
    c.call.action = .take ∧ ((b.run (made calls)).call c.call).1 = false := by
  simpa using h calls.length (by simp) (by simpa using hc)

end Refuses

/-- A try that is refused makes no difference. -/
theorem call_of_refused {b : Bucket} (hcapacity : 0 < b.capacity) {c : Call}
    (htry : c.action = .take) (h : (b.call c).1 = false) : b.call c = (false, b) := by
  have htake : b.call c = b.take c.time := by rw [call, htry]
  rw [htake] at h ⊢
  exact take_of_refused hcapacity h

/-- Where both runs have come to the same call, they find the bucket in the same state and have
been granted the same. The induction is on the last call : whether it is refused is read off either
of two states, which are equal by what has been shown of the calls before it. -/
theorem runs_agree {capacity rate : Nat} {b : Bucket} (hb : b.Lawful capacity rate)
    (hcapacity : 0 < capacity) {made : List Marked → List Call} (hmade : made = whole ∨ made = rest)
    {calls : List Marked} (h : b.Refuses made calls) :
    b.run (rest calls) = b.run (whole calls) ∧ b.grants (rest calls) = b.grants (whole calls) := by
  induction calls using List.reverseRecOn with
  | nil => exact ⟨rfl, rfl⟩
  | append_singleton calls c ih =>
    obtain ⟨hrun, hgrants⟩ := ih h.init
    rw [Marked.whole_snoc, Marked.rest_snoc]
    cases hc : c.stays with
    | true =>
      rw [if_pos rfl, run_snoc, run_snoc, grants_snoc, grants_snoc, hrun, hgrants]
      exact ⟨rfl, rfl⟩
    | false =>
      obtain ⟨htry, hrefused⟩ := h.last hc
      have hstate : b.run (made calls) = b.run (whole calls) := by
        rcases hmade with rfl | rfl
        · rfl
        · exact hrun
      rw [hstate] at hrefused
      have hsame := call_of_refused (by rw [(hb.run _).capacity_eq]; exact hcapacity) htry hrefused
      rw [if_neg Bool.false_ne_true, run_snoc, grants_snoc, hsame]
      exact ⟨hrun, by simpa using hgrants⟩

/-- A try that is refused leaves the bucket exactly as it was. So however a bucket has been used, a
run and the same run without some of its refused tries, or with further tries wherever they are
refused, answer every other call alike, grant at the same instants and end in the same state. -/
theorem refused_tries_are_free (capacity rate : UInt32) (born : Nat) (before : List Call) :
    let b := (full capacity rate born).run before
    (∀ now, (b.take now).1 = false → (b.take now).2 = b) ∧
      ∀ calls : List Marked, b.Refuses whole calls ∨ b.Refuses rest calls →
        b.run (rest calls) = b.run (whole calls) ∧ b.grants (rest calls) = b.grants (whole calls) ∧
          ∀ n, (h : n < calls.length) → ((b.run (rest (calls.take n))).call calls[n].call).1 =
            ((b.run (whole (calls.take n))).call calls[n].call).1 := by
  intro b
  have hb : b.Lawful (max capacity.toNat 1) (max rate.toNat 1) :=
    (lawful_full capacity rate born).run before
  have hcapacity : 0 < max capacity.toNat 1 := Nat.le_max_right _ _
  refine ⟨fun now hrefused => ?_, fun calls h => ?_⟩
  · rw [take_of_refused (by rw [hb.capacity_eq]; exact hcapacity) hrefused]
  · have hagree : ∀ n, b.run (rest (calls.take n)) = b.run (whole (calls.take n)) ∧
        b.grants (rest (calls.take n)) = b.grants (whole (calls.take n)) := by
      intro n
      rcases h with h | h
      · exact runs_agree hb hcapacity (.inl rfl) (Refuses.take h n)
      · exact runs_agree hb hcapacity (.inr rfl) (Refuses.take h n)
    have hend := hagree calls.length
    rw [List.take_length] at hend
    exact ⟨hend.1, hend.2, fun n hn => by rw [(hagree n).1]⟩

/-- A drained bucket that earns ten tokens a second, polled in vain at 50 ms and at 99 ms and once
more after it has given out the token of 100 ms. None of the polls is seen in what it does. -/
theorem refused_tries_are_free_of_polls :
    let b := (full 1 10 0).run [⟨0, .take⟩]
    let calls : List Marked :=
      [⟨⟨50 * Time.millisecond, .take⟩, false⟩, ⟨⟨99 * Time.millisecond, .take⟩, false⟩,
        ⟨⟨20 * Time.millisecond, .take⟩, true⟩, ⟨⟨100 * Time.millisecond, .take⟩, true⟩,
        ⟨⟨100 * Time.millisecond, .take⟩, false⟩, ⟨⟨150 * Time.millisecond, .reset⟩, true⟩,
        ⟨⟨150 * Time.millisecond, .take⟩, true⟩]
    (b.take (50 * Time.millisecond)).1 = false ∧ (b.take (50 * Time.millisecond)).2 = b ∧
      b.Refuses whole calls ∧ b.run (rest calls) = b.run (whole calls) ∧
      b.grants (rest calls) = b.grants (whole calls) ∧
      b.grants (whole calls) = [100 * Time.millisecond, 150 * Time.millisecond] := by
  intro b calls
  have hrefused : (b.take (50 * Time.millisecond)).1 = false := by decide
  have hrefuses : b.Refuses whole calls := by decide
  obtain ⟨hsame, hrun⟩ := refused_tries_are_free 1 10 0 [⟨0, .take⟩]
  obtain ⟨hend, hgrants, -⟩ := hrun calls (.inl hrefuses)
  exact ⟨hrefused, hsame _ hrefused, hrefuses, hend, hgrants, by decide⟩

/-! ## A smaller and a larger bucket -/

/-- The first bucket is the smaller one : it holds no more than the second, and is behind by no more
than the difference of the capacities. They earn alike. -/
structure Below (small large : Bucket) : Prop where
  rate_eq : small.rate = large.rate
  lastRefill_eq : small.lastRefill = large.lastRefill
  capacity_le : small.capacity ≤ large.capacity
  tokens_le : small.tokens ≤ large.tokens
  gap_le : large.tokens + small.capacity ≤ small.tokens + large.capacity

theorem below_full {c₁ c₂ : UInt32} (h : c₁ ≤ c₂) (rate : UInt32) (born : Nat) :
    (full c₁ rate born).Below (full c₂ rate born) := by
  have hle : max c₁.toNat 1 ≤ max c₂.toNat 1 := by
    have := UInt32.le_iff_toNat_le.1 h
    omega
  exact ⟨rfl, rfl, hle, hle, Nat.le_of_eq (Nat.add_comm _ _)⟩

namespace Below

variable {small large : Bucket}

/-- Both earn the same, and what does not fit is lost to the smaller one first. -/
theorem refill (h : small.Below large) (now : Nat) :
    (small.refill now).Below (large.refill now) := by
  obtain ⟨hrate, hlast, hcapacity, htokens, hgap⟩ := h
  by_cases hearned : tokensEarned (now - large.lastRefill) large.rate = 0
  · rw [refill_of_earned_eq_zero (by rwa [hrate, hlast]), refill_of_earned_eq_zero hearned]
    exact ⟨hrate, hlast, hcapacity, htokens, hgap⟩
  · rw [refill_of_earned_ne_zero (by rwa [hrate, hlast]), refill_of_earned_ne_zero hearned, hrate,
      hlast]
    generalize tokensEarned (now - large.lastRefill) large.rate = earned
    refine ⟨rfl, rfl, hcapacity, ?_, ?_⟩
    · show min (min (small.tokens + earned) tokenLimit) small.capacity ≤
        min (min (large.tokens + earned) tokenLimit) large.capacity
      omega
    · show min (min (large.tokens + earned) tokenLimit) large.capacity + small.capacity ≤
        min (min (small.tokens + earned) tokenLimit) small.capacity + large.capacity
      omega

/-- What the smaller bucket grants the larger one grants. -/
theorem isGranted (h : small.Below large) {c : Call} (hgranted : (small.call c).1 = true) :
    (large.call c).1 = true := by
  have htokens := (h.refill c.time).tokens_le
  unfold Bucket.call at hgranted ⊢
  cases haction : c.action with
  | refill | reset => simp [haction] at hgranted
  | take =>
    simp only [haction, take_eq, decide_eq_true_eq] at hgranted ⊢
    omega

/-- A token may be taken of the larger one alone, which only narrows the gap. -/
theorem call (h : small.Below large) (c : Call) :
    (small.call c).2.Below (large.call c).2 := by
  obtain ⟨hrate, hlast, hcapacity, htokens, hgap⟩ := h.refill c.time
  unfold Bucket.call
  cases c.action with
  | refill => exact ⟨hrate, hlast, hcapacity, htokens, hgap⟩
  | take =>
    simp only [take_eq]
    exact ⟨hrate, hlast, hcapacity, Nat.sub_le_sub_right htokens 1, by dsimp only; omega⟩
  | reset =>
    exact ⟨h.rate_eq, rfl, h.capacity_le, h.capacity_le, Nat.le_of_eq (Nat.add_comm _ _)⟩

/-- The smaller bucket stays below the larger one, whatever is asked of both. -/
theorem run (h : small.Below large) (calls : List Call) :
    (small.run calls).Below (large.run calls) := by
  induction calls generalizing small large with
  | nil => exact h
  | cons c calls ih => exact ih (h.call c)

/-- The larger bucket grants at all the instants at which the smaller one does. -/
theorem grants (h : small.Below large) (calls : List Call) :
    (small.grants calls).Sublist (large.grants calls) := by
  induction calls generalizing small large with
  | nil => exact .slnil
  | cons c calls ih =>
    refine List.Sublist.append ?_ (ih (h.call c))
    cases hgranted : (small.call c).1 with
    | false => exact List.nil_sublist _
    | true => exact (h.isGranted hgranted) ▸ List.Sublist.refl _

end Below

/-- Of two buckets that earn alike from the same instant on, and of which the same is asked at
whatever instants, the one with the larger burst grants whatever the other one grants. It always
holds at least as much, and at most the difference of the bursts more, and both have been refilled
up to the same instant. -/
theorem larger_burst_never_hurts {c₁ c₂ : UInt32} (h : c₁ ≤ c₂) (rate : UInt32) (born : Nat)
    (calls : List Call) :
    let small := (full c₁ rate born).run calls
    let large := (full c₂ rate born).run calls
    (∀ now, (small.take now).1 = true → (large.take now).1 = true) ∧
      ((full c₁ rate born).grants calls).Sublist ((full c₂ rate born).grants calls) ∧
      small.tokens ≤ large.tokens ∧ large.tokens - small.tokens ≤ c₂.toNat - c₁.toNat ∧
      small.lastRefill = large.lastRefill := by
  intro small large
  have hfull := below_full h rate born
  have hbelow : small.Below large := hfull.run calls
  have hsmall : small.capacity = max c₁.toNat 1 :=
    ((lawful_full c₁ rate born).run calls).capacity_eq
  have hlarge : large.capacity = max c₂.toNat 1 :=
    ((lawful_full c₂ rate born).run calls).capacity_eq
  have hgap := hbelow.gap_le
  have hle : c₁.toNat ≤ c₂.toNat := UInt32.le_iff_toNat_le.1 h
  exact ⟨fun now => hbelow.isGranted (c := ⟨now, .take⟩), hfull.grants calls, hbelow.tokens_le,
    by omega, hbelow.lastRefill_eq⟩

/-- Buckets of one and of three tokens that earn one a second. The second try is granted by the
larger one alone. After two seconds both are full again and a token is taken from each, and a refill
at an earlier instant changes nothing. -/
theorem larger_burst_never_hurts_of_two_bursts :
    let calls : List Call :=
      [⟨0, .take⟩, ⟨0, .take⟩, ⟨2 * Time.second, .take⟩, ⟨Time.second, .refill⟩]
    let small := (full 1 1 0).run calls
    let large := (full 3 1 0).run calls
    (1 : UInt32) ≤ 3 ∧ (full 1 1 0).grants calls = [0, 2 * Time.second] ∧
      (full 3 1 0).grants calls = [0, 0, 2 * Time.second] ∧
      ((full 1 1 0).grants calls).Sublist ((full 3 1 0).grants calls) ∧
      small.tokens = 0 ∧ large.tokens = 2 ∧
      large.tokens - small.tokens ≤ (3 : UInt32).toNat - (1 : UInt32).toNat ∧
      small.lastRefill = large.lastRefill := by
  intro calls small large
  have hle : (1 : UInt32) ≤ 3 := by decide
  obtain ⟨-, hgrants, -, hgap, hlast⟩ := larger_burst_never_hurts hle 1 0 calls
  exact ⟨hle, by decide, by decide, hgrants, by decide, by decide, hgap, hlast⟩

end Bucket

end Resilience.Rate
