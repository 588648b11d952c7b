import Mathlib.Algebra.Order.Floor.Div
import Mathlib.Order.Bounds.Defs
import Resilience.Activity.Operation
import Resilience.Proofs.Rate.Bucket
import Resilience.Proofs.Retry.Law
import Resilience.Rate.Execute

/-!
# Waiting for a token ends in time

A waiter that is alone tries at instants fixed in advance (`Rate.pollAt`), and as long as its tries
fail they leave the bucket as it is : the credit since the last refill is never lost. Each sleep
adds at least the poll interval to it, or the horizon where the clock does not reach that far, so
that after a bounded number of sleeps a token has been earned (`Rate.Bucket.ready_pollAt`).

`Rate.Awaits` says how the waiter stands up to that try, each turn of it leads from one such state
to the next (`Rate.Awaits.turn`), and the session gets to the try that takes the token
(`Rate.admitted_in_time`). From there on it goes along with a session of the operation alone.
-/

namespace Resilience.Rate

/-! ## The instants of the tries -/

/-- The instant of the `k`th try, from nought, of a waiter that begins at `start` : after a try that
fails it sleeps for the interval. -/
def pollAt (interval start : Nat) : Nat → Nat
  | 0 => start
  | k + 1 => Time.tick (Time.after (pollAt interval start k) interval)

/-- The instants at which a waiter of this limiter tries. -/
def Limiter.pollAt (l : Limiter) (start k : Nat) : Nat :=
  Rate.pollAt l.config.pollInterval start k

theorem add_min_le_after (t d : Nat) : t + min d Time.horizon ≤ Time.after t d := by
  unfold Time.after Time.after?
  split
  · exact Nat.add_le_add_left (Nat.min_le_left _ _) t
  · exact Nat.add_le_add_left (Nat.min_le_right _ _) t

theorem pollAt_add_le_succ (interval start k : Nat) :
    pollAt interval start k + min interval Time.horizon ≤ pollAt interval start (k + 1) :=
  (add_min_le_after _ interval).trans (Time.le_tick _)

theorem pollAt_lt_succ {interval : Nat} (h : 0 < interval) (start k : Nat) :
    pollAt interval start k < pollAt interval start (k + 1) := by
  have hhorizon : 0 < Time.horizon := by decide
  have := pollAt_add_le_succ interval start k
  omega

/-- No try is earlier than its number of intervals after the first one. -/
theorem add_mul_le_pollAt (interval start k : Nat) :
    start + k * min interval Time.horizon ≤ pollAt interval start k := by
  induction k with
  | zero => simp [pollAt]
  | succ k ih =>
    rw [Nat.succ_mul, ← Nat.add_assoc]
    exact (Nat.add_le_add_right ih _).trans (pollAt_add_le_succ interval start k)

/-- After as many sleeps as it takes to earn a token at full intervals, one has been earned. An
interval beyond the horizon is cut short, and the horizon alone is long enough. -/
theorem Bucket.ready_pollAt {b : Bucket} {interval start : Nat} (hrate : 0 < b.rate)
    (hinterval : 0 < interval) (hrefill : b.lastRefill ≤ start) :
    b.Ready (pollAt interval start (Time.second ⌈/⌉ (b.rate * interval))) := by
  generalize hk : Time.second ⌈/⌉ (b.rate * interval) = k
  have hcredit : Time.second ≤ b.rate * interval * k := by
    rw [← hk]
    exact le_smul_ceilDiv (Nat.mul_pos hrate hinterval)
  have hpoll : k * min interval Time.horizon ≤ pollAt interval start k - b.lastRefill := by
    have := add_mul_le_pollAt interval start k
    omega
  refine .inr (le_trans ?_ (Nat.mul_le_mul_right b.rate hpoll))
  rcases Nat.le_total interval Time.horizon with hle | hle
  · rwa [Nat.min_eq_left hle, Nat.mul_comm _ b.rate, Nat.mul_comm k, ← Nat.mul_assoc]
  · have hkpos : 0 < k := by
      refine Nat.pos_of_ne_zero fun hzero => ?_
      rw [hzero, Nat.mul_zero] at hcredit
      exact absurd hcredit (by decide)
    have hlong : Time.second ≤ Time.horizon := by decide
    rw [Nat.min_eq_right hle]
    calc Time.second ≤ Time.horizon := hlong
      _ ≤ k * Time.horizon := Nat.le_mul_of_pos_left _ hkpos
      _ ≤ k * Time.horizon * b.rate := Nat.le_mul_of_pos_right _ hrate

/-- The bound on the sleeps never exceeds a thousand. -/
theorem ceilDiv_le_thousand {rate interval : Nat} (hrate : 0 < rate)
    (hinterval : Time.shortest ≤ interval) : Time.second ⌈/⌉ (rate * interval) ≤ 1000 := by
  have hshortest : 0 < Time.shortest := by decide
  have hproduct : Time.shortest ≤ rate * interval :=
    hinterval.trans (Nat.le_mul_of_pos_left _ hrate)
  rw [ceilDiv_le_iff_le_smul (hshortest.trans_le hproduct), smul_eq_mul]
  calc Time.second = Time.shortest * 1000 := by decide
    _ ≤ rate * interval * 1000 := Nat.mul_le_mul_right _ hproduct

/-! ## The turns of a waiter -/

variable {σ ε α : Type}

/-- Whether a waiter is about to look for a token. -/
def Waiting.isTrying : Waiting σ → Bool
  | trying _ => true
  | _ => false

/-- Whether a waiter runs its operation. -/
def Waiting.isRunning : Waiting σ → Bool
  | running _ => true
  | _ => false

/-- Whether a sleep has just begun. -/
def beginsSleep : Progress (Waiting σ) (Except (Error ε) α) → Bool
  | .running (.sleeping _ _) => true
  | _ => false

/-- The limiter is as it was, no operation has been called, and the handle does not end. -/
structure Undisturbed (handle : Cancellation) (l : Limiter) (calls : List Nat) (w : World) :
    Prop where
  limiter : w.limiter? = some l
  calls : w.calls = calls
  steady : w.Steady
  handle : handle.NeverEnds w

namespace Undisturbed

variable {handle : Cancellation} {l : Limiter} {calls : List Nat} {w : World}

theorem background (h : Undisturbed handle l calls w) :
    Undisturbed handle l calls w.background.1 where
  limiter := by rw [World.background_fst]; exact h.limiter
  calls := by rw [World.background_fst]; exact h.calls
  steady := World.steady_background h.steady
  handle := h.handle.background

theorem advance (h : Undisturbed handle l calls w) (t : Nat) :
    Undisturbed handle l calls (w.advance t) :=
  ⟨h.limiter, h.calls, h.steady, h.handle.advance t⟩

theorem check (h : Undisturbed handle l calls w) : handle.check w.tokens w.now = none :=
  Cancellation.check_eq_none_of_no_deadline h.handle.deadline h.handle.live

theorem poll (h : Undisturbed handle l calls w) (ends : Nat) :
    (⟨ends, some handle⟩ : Wait).poll w.tokens w.now =
      if Time.fired ends w.now then .over else .pending := by
  refine Wait.poll_of_pending fun c hc => ?_
  cases hc
  rw [Cancellation.waited_eq_pending_iff]
  exact ⟨h.handle.live, fun d hd => by simp [h.handle.deadline] at hd⟩

theorem nextTick (h : Undisturbed handle l calls w) (ends : Nat) :
    (⟨ends, some handle⟩ : Wait).nextTick = Time.tick ends :=
  Wait.nextTick_of_none h.handle.deadline

variable (h : Undisturbed handle l calls w) (op : Activity σ (Except ε α))
include h

theorem turn_opening : ((executeWithWait handle op).turn .opening w).upshot =
    (.running (.trying w.now), w) := by
  simp only [executeWithWait, h.limiter, Option.isSome_some, if_true]
  rfl

/-- A try that finds no token is followed by a sleep of one interval. -/
theorem turn_trying_of_not_ready (since : Nat) (hready : ¬l.bucket.Ready w.now) :
    ((executeWithWait handle op).turn (.trying since) w).upshot =
      (.running (.sleeping since ⟨Time.after w.now l.config.pollInterval, some handle⟩), w) := by
  have hallow : w.allow = (false, w) := by
    simp only [World.allow, h.limiter, Limiter.allow, Bucket.take_of_not_ready hready]
    rw [← h.limiter]
  simp only [executeWithWait, tryToken, Cancellation.sleep, h.check, hallow, h.limiter,
    Option.map_some, Option.getD_some, Bool.false_eq_true, if_false]
  rfl

/-- A try that finds a token takes it, and goes on with the operation. -/
theorem turn_trying_of_ready (since : Nat) (hcapacity : 0 < l.bucket.capacity)
    (hready : l.bucket.Ready w.now) :
    ((executeWithWait handle op).turn (.trying since) w).upshot =
      (.running (.running op.start), { w with limiter? := some { l with bucket :=
        { l.bucket.refill w.now with tokens := (l.bucket.refill w.now).tokens - 1 } } }) := by
  have hallow : w.allow = (true, { w with limiter? := some { l with bucket :=
      { l.bucket.refill w.now with tokens := (l.bucket.refill w.now).tokens - 1 } } }) := by
    simp only [World.allow, h.limiter, Limiter.allow, Bucket.take_eq,
      Bucket.refill_ne_zero_of_ready hcapacity hready, ne_eq, not_false_eq_true, decide_true]
  simp only [executeWithWait, tryToken, h.check, hallow, if_true]
  rfl

theorem turn_sleeping (since ends : Nat) :
    ((executeWithWait handle op).turn (.sleeping since ⟨ends, some handle⟩) w).upshot =
      (if Time.fired ends w.now then .running (.trying since)
        else .waiting (.sleeping since ⟨ends, some handle⟩) ⟨ends, some handle⟩, w) := by
  simp only [executeWithWait, h.poll ends]
  cases Time.fired ends w.now <;> rfl

end Undisturbed

/-! ## How a waiter stands -/

section Standing

variable (handle : Cancellation) (op : Activity σ (Except ε α)) (l : Limiter) (start : Nat)
  (calls : List Nat)

/-- How a waiter stands that began at `start`, after so many tries, sleeps begun and turns, up to
the try that takes the token. -/
inductive Awaits : Nat → Nat → Nat → Progress (Waiting σ) (Except (Error ε) α) → World → Prop
  | opening {w} (hw : Undisturbed handle l calls w) (hnow : w.now = start) :
      Awaits 0 0 0 (.running .opening) w
  | trying {k since w} (hw : Undisturbed handle l calls w) (hnow : w.now = l.pollAt start k)
      (hk : ∀ j < k, ¬l.bucket.Ready (l.pollAt start j)) :
      Awaits k k (3 * k + 1) (.running (.trying since)) w
  | sleeping {k since w} (hw : Undisturbed handle l calls w) (hnow : w.now = l.pollAt start k)
      (hk : ∀ j ≤ k, ¬l.bucket.Ready (l.pollAt start j)) :
      Awaits (k + 1) (k + 1) (3 * k + 2)
        (.running (.sleeping since ⟨Time.after w.now l.config.pollInterval, some handle⟩)) w
  | waiting {k since ends w} (hw : Undisturbed handle l calls w)
      (hends : Time.tick ends = l.pollAt start (k + 1)) (hnow : w.now ≤ Time.tick ends)
      (hk : ∀ j ≤ k, ¬l.bucket.Ready (l.pollAt start j)) :
      Awaits (k + 1) (k + 1) (3 * k + 3)
        (.waiting (.sleeping since ⟨ends, some handle⟩) ⟨ends, some handle⟩) w
  | admitted {k w} (hnow : w.now = l.pollAt start k)
      (hk : ∀ j < k, ¬l.bucket.Ready (l.pollAt start j)) (hready : l.bucket.Ready w.now)
      (hlimiter : w.limiter? = some { l with bucket :=
        { l.bucket.refill w.now with tokens := (l.bucket.refill w.now).tokens - 1 } })
      (hcalls : w.calls = calls) (hsteady : w.Steady) :
      Awaits (k + 1) k (3 * k + 2) (.running (.running op.start)) w

variable {handle op l start calls}
variable {tries sleeps turns : Nat} {progress : Progress (Waiting σ) (Except (Error ε) α)}
  {w : World}

variable (handle op l start calls) in
/-- What a turn does to the counts, and where it is taken. -/
structure Counted (tries sleeps turns : Nat) (s : Waiting σ) (w : World) : Prop where
  awaits : Awaits handle op l start calls (tries + s.isTrying.toNat)
    (sleeps + (beginsSleep ((executeWithWait handle op).turn s w).progress).toNat) (turns + 1)
    ((executeWithWait handle op).turn s w).progress ((executeWithWait handle op).turn s w).world
  limiter : w.limiter? = some l
  running : s.isRunning = false
  instant : s.isTrying = true → w.now = l.pollAt start tries

/-- A turn up to the try that takes the token. -/
theorem Awaits.turn (hcapacity : 0 < l.bucket.capacity) (hinterval : 0 < l.config.pollInterval)
    (h : Awaits handle op l start calls tries sleeps turns progress w)
    (hgoal : progress ≠ .running (.running op.start)) {s : Waiting σ}
    (hs : progress.ready? w = some s) : Counted handle op l start calls tries sleeps turns s w := by
  cases h with
  | admitted => exact absurd rfl hgoal
  | opening hw hnow =>
    cases hs
    obtain ⟨hprogress, hworld⟩ := Prod.mk.inj (hw.turn_opening op)
    refine ⟨?_, hw.limiter, rfl, fun htry => absurd htry Bool.false_ne_true⟩
    rw [hprogress, hworld]
    exact .trying hw hnow (fun j hj => absurd hj (Nat.not_lt_zero j))
  | @trying k since _ hw hnow hk =>
    cases hs
    by_cases hready : l.bucket.Ready w.now
    · obtain ⟨hprogress, hworld⟩ := Prod.mk.inj (hw.turn_trying_of_ready op since hcapacity hready)
      refine ⟨?_, hw.limiter, rfl, fun _ => hnow⟩
      rw [hprogress, hworld]
      exact .admitted hnow hk hready rfl hw.calls hw.steady
    · obtain ⟨hprogress, hworld⟩ := Prod.mk.inj (hw.turn_trying_of_not_ready op since hready)
      refine ⟨?_, hw.limiter, rfl, fun _ => hnow⟩
      rw [hprogress, hworld]
      refine .sleeping hw hnow fun j hj => ?_
      rcases Nat.lt_or_eq_of_le hj with hlt | rfl
      · exact hk j hlt
      · rwa [← hnow]
  | @sleeping k since _ hw hnow hk =>
    cases hs
    have hends : Time.tick (Time.after w.now l.config.pollInterval) = l.pollAt start (k + 1) := by
      rw [hnow]
      rfl
    -- The next try lies ahead, so that a sleep is not over in the turn that first looks at it.
    have hlater : w.now < Time.tick (Time.after w.now l.config.pollInterval) := by
      rw [hends, hnow]
      exact pollAt_lt_succ hinterval start k
    obtain ⟨hprogress, hworld⟩ := Prod.mk.inj (hw.turn_sleeping op since _)
    rw [Time.fired_eq_false_iff.2 hlater] at hprogress
    refine ⟨?_, hw.limiter, rfl, fun htry => absurd htry Bool.false_ne_true⟩
    rw [hprogress, hworld]
    exact .waiting hw hends hlater.le hk
  | @waiting k since ends _ hw hends hnow hk =>
    have hfired : Time.fired ends w.now = true := by
      cases hfired : Time.fired ends w.now with
      | true => rfl
      | false => simp [Progress.ready?, hw.poll, hfired] at hs
    obtain rfl : .sleeping since ⟨ends, some handle⟩ = s := by
      simpa [Progress.ready?, hw.poll, hfired] using hs
    obtain ⟨hprogress, hworld⟩ := Prod.mk.inj (hw.turn_sleeping op since ends)
    rw [hfired] at hprogress
    refine ⟨?_, hw.limiter, rfl, fun htry => absurd htry Bool.false_ne_true⟩
    rw [hprogress, hworld]
    -- The clock stops at the timer of the wait, and no turn is taken before that.
    refine .trying hw ?_ (fun j hj => hk j (Nat.le_of_lt_succ hj))
    exact (Nat.le_antisymm hnow (Time.fired_iff.1 hfired)).trans hends

/-- Work in the background makes no difference to a wait for a token. -/
theorem Awaits.background {s : Waiting σ} {wait : Wait}
    (h : Awaits handle op l start calls tries sleeps turns (.waiting s wait) w) :
    Awaits handle op l start calls tries sleeps turns (.waiting s wait) w.background.1 := by
  cases h with
  | waiting hw hends hnow hk =>
    exact .waiting hw.background hends (by rwa [World.background_now]) hk

theorem Awaits.advance {s : Waiting σ} {wait : Wait} {t : Nat}
    (h : Awaits handle op l start calls tries sleeps turns (.waiting s wait) w)
    (ht : t ≤ wait.nextTick) :
    Awaits handle op l start calls tries sleeps turns (.waiting s wait) (w.advance t) := by
  cases h with
  | waiting hw hends hnow hk =>
    rw [hw.nextTick] at ht
    exact .waiting (hw.advance t) hends (Nat.max_le.2 ⟨hnow, ht⟩) hk

theorem Awaits.steady (h : Awaits handle op l start calls tries sleeps turns progress w) :
    w.Steady := by
  cases h with
  | opening hw | trying hw | sleeping hw | waiting hw => exact hw.steady
  | admitted _ _ _ _ _ hsteady => exact hsteady

/-- Up to the try that takes the token there are no more turns than three for each try. -/
theorem Awaits.turns_le (h : Awaits handle op l start calls tries sleeps turns progress w) {k : Nat}
    (hk : l.bucket.Ready (l.pollAt start k)) : turns ≤ 3 * k + 2 := by
  have hle : ∀ {m}, (∀ j < m, ¬l.bucket.Ready (l.pollAt start j)) → m ≤ k :=
    fun hm => Nat.le_of_not_lt fun hlt => hm k hlt hk
  cases h with
  | opening => exact Nat.zero_le _
  | trying _ _ hj => have := hle hj; omega
  | admitted _ hj => have := hle hj; omega
  | sleeping _ _ hj => have := hle fun j hlt => hj j (Nat.le_of_lt_succ hlt); omega
  | waiting _ _ _ hj => have := hle fun j hlt => hj j (Nat.le_of_lt_succ hlt); omega

/-! ## The account of a waiter -/

/-- What the turns of a waiter come to, after so many tries and sleeps : the tries were made at the
instants fixed in advance, and up to the last one the limiter was as it had been and the operation
had not begun. -/
structure Ledger (q : Activity (Waiting σ) (Except (Error ε) α)) (l : Limiter) (start : Nat)
    (tries sleeps : Nat) (turns : List (Waiting σ × World)) : Prop where
  tries : (turns.filter (·.1.isTrying)).map (·.2.now) = (List.range tries).map (l.pollAt start)
  sleeps : (turns.countP fun t => beginsSleep (q.turn t.1 t.2).progress) = sleeps
  before : ∀ t ∈ turns, t.1.isRunning = false ∧ t.2.limiter? = some l

theorem Ledger.nil (q : Activity (Waiting σ) (Except (Error ε) α)) (l : Limiter) (start : Nat) :
    Ledger q l start 0 0 [] :=
  ⟨rfl, rfl, fun _ ht => absurd ht List.not_mem_nil⟩

theorem Ledger.snoc {count : Nat} {turns : List (Waiting σ × World)} {s : Waiting σ}
    (h : Ledger (executeWithWait handle op) l start tries sleeps turns)
    (hturn : Counted handle op l start calls tries sleeps count s w) :
    Ledger (executeWithWait handle op) l start (tries + s.isTrying.toNat)
      (sleeps + (beginsSleep ((executeWithWait handle op).turn s w).progress).toNat)
      (turns ++ [(s, w)]) where
  tries := by
    rw [List.filter_append, List.map_append, h.tries]
    cases htry : s.isTrying with
    | false => simp [htry]
    | true => simp [htry, List.range_succ, hturn.instant htry]
  sleeps := by
    rw [List.countP_append, h.sleeps, List.countP_singleton]
    cases beginsSleep ((executeWithWait handle op).turn s w).progress <;> rfl
  before t ht := by
    rcases List.mem_append.1 ht with ht | ht
    · exact h.before t ht
    · rw [List.mem_singleton.1 ht]
      exact ⟨hturn.running, hturn.limiter⟩

end Standing

/-- A turn of the operation that was let through. -/
theorem turn_running (handle : Cancellation) (op : Activity σ (Except ε α)) (s : σ) (w : World) :
    ((executeWithWait handle op).turn (.running s) w).upshot =
      ((op.turn s w).progress.map .running (Except.mapError .operation), (op.turn s w).world) :=
  Turn.upshot_inside_map fun _ _ => rfl

/-- What a waiter carries along up to the try that takes the token. -/
def Carries (handle : Cancellation) (op : Activity σ (Except ε α)) (w₀ : World) (l : Limiter)
    (turns : List (Waiting σ × World)) (progress : Progress (Waiting σ) (Except (Error ε) α))
    (w : World) : Prop :=
  (executeWithWait handle op).Solo w₀ turns progress w ∧ ∃ tries sleeps,
    Awaits handle op l w₀.now w₀.calls tries sleeps turns.length progress w ∧
      Ledger (executeWithWait handle op) l w₀.now tries sleeps turns

/-- What is said of a wait for a token is carried on to its first turn with one. -/
theorem carried (handle : Cancellation) (op : Activity σ (Except ε α)) (w₀ : World) (l : Limiter)
    (hcapacity : 0 < l.bucket.capacity) (hinterval : 0 < l.config.pollInterval) :
    (executeWithWait handle op).Carried (· = .running (.running op.start))
      (Carries handle op w₀ l) where
  turn := by
    rintro turns progress s w ⟨hsolo, tries, sleeps, hawaits, hledger⟩ hgoal hs
    have hturn := hawaits.turn hcapacity hinterval hgoal hs
    refine ⟨hsolo.turn hs, _, _, ?_, hledger.snoc hturn⟩
    rw [List.length_append, List.length_singleton]
    exact hturn.awaits
  background := by
    rintro turns s wait w ⟨hsolo, tries, sleeps, hawaits, hledger⟩
    exact ⟨hsolo.background, tries, sleeps, hawaits.background, hledger⟩
  advance := by
    rintro turns s wait w t ⟨hsolo, tries, sleeps, hawaits, hledger⟩ ht
    exact ⟨hsolo.advance t ht.le_nextTick, tries, sleeps, hawaits.advance ht.le_nextTick, hledger⟩
  steady := by
    rintro turns progress w ⟨-, tries, sleeps, hawaits, -⟩
    exact hawaits.steady

/-- A waiter that is alone is let through, at the first of its tries that finds a token. If one is
left that is the first try ; otherwise it is the first one by which a token has been earned since
the last refill, after no more sleeps than it takes at full intervals to earn one, and a thousand at
the most. The waiter takes one token at that try and none before, and then runs its operation, which
it has not begun before, as if the operation were alone. -/
theorem admitted_in_time (handle : Cancellation) (op : Activity σ (Except ε α)) (w₀ : World)
    (l : Limiter) (hl : w₀.limiter? = some l) (hcapacity : 0 < l.bucket.capacity)
    (hrate : 0 < l.bucket.rate) (hinterval : Time.shortest ≤ l.config.pollInterval)
    (hrefill : l.bucket.lastRefill ≤ w₀.now) (hsteady : w₀.Steady)
    (hhandle : handle.NeverEnds w₀) :
    let q := executeWithWait handle op
    let t := l.pollAt w₀.now
    ∃ k, (l.bucket.tokens ≠ 0 → k = 0) ∧
      (l.bucket.tokens = 0 →
        IsLeast {j | Time.second ≤ (t j - l.bucket.lastRefill) * l.bucket.rate} k) ∧
      k ≤ Time.second ⌈/⌉ (l.bucket.rate * l.config.pollInterval) ∧ k ≤ 1000 ∧
      ∃ fuel turns w events,
        q.Solo w₀ turns (.running (.running op.start)) w ∧
        Ledger q l w₀.now (k + 1) k turns ∧ w.now = t k ∧ w.calls = w₀.calls ∧
        (l.bucket.refill w.now).tokens ≠ 0 ∧
        w.limiter? = some { l with bucket :=
          { l.bucket.refill w.now with tokens := (l.bucket.refill w.now).tokens - 1 } } ∧
        Session.run fuel (.alone q w₀) = ⟨w, [⟨q, .running (.running op.start)⟩], events⟩ ∧
        ∀ more, ∃ w' progress reports reports',
          Session.run more (.alone op w) = ⟨w', [⟨op, progress⟩], reports⟩ ∧
          Session.run (fuel + more) (.alone q w₀) =
            ⟨w', [⟨q, progress.map .running (Except.mapError .operation)⟩], reports'⟩ := by
  intro q t
  have hpos : 0 < l.config.pollInterval := Nat.lt_of_lt_of_le (by decide) hinterval
  have hready : l.bucket.Ready (t (Time.second ⌈/⌉ (l.bucket.rate * l.config.pollInterval))) :=
    Bucket.ready_pollAt hrate hpos hrefill
  have hthousand := ceilDiv_le_thousand hrate hinterval
  generalize Time.second ⌈/⌉ (l.bucket.rate * l.config.pollInterval) = most at hready hthousand ⊢
  have hcarried := carried handle op w₀ l hcapacity hpos
  have hbound : ∀ {turns progress w}, Carries handle op w₀ l turns progress w →
      turns.length ≤ 3 * most + 2 := by
    rintro turns progress w ⟨-, tries, sleeps, hawaits, -⟩
    exact hawaits.turns_le hready
  have hstart : Carries handle op w₀ l [] (.running .opening) w₀ :=
    ⟨.start, 0, 0, .opening ⟨hl, rfl, hsteady, hhandle⟩ rfl, .nil _ l w₀.now⟩
  obtain ⟨fuel, turns, progress, w, events, ⟨hsolo, tries, sleeps, hawaits, hledger⟩, hend, hrun⟩ :=
    hcarried.reaches hbound hstart []
  generalize turns.length = count at hawaits
  rcases hend with rfl | ⟨r, rfl⟩
  · cases hawaits with
    | admitted hnow hk hfound hlimiter hcalls =>
      have hfirst : ∀ j, l.bucket.Ready (t j) → sleeps ≤ j :=
        fun j hj => Nat.le_of_not_lt fun hlt => hk j hlt hj
      have hmost := hfirst most hready
      have htoken := Bucket.refill_ne_zero_of_ready hcapacity hfound
      refine ⟨sleeps, ?_, ?_, hmost, hmost.trans hthousand, fuel, turns, w, events, hsolo, hledger,
        hnow, hcalls, htoken, hlimiter, hrun, fun more => ?_⟩
      · exact fun htokens => Nat.eq_zero_of_le_zero (hfirst 0 (.inl htokens))
      · intro htokens
        rw [hnow] at hfound
        exact ⟨hfound.resolve_left (not_not.2 htokens), fun j hj => hfirst j (.inr hj)⟩
      · obtain ⟨w', progress, reports, reports', hop, hq⟩ :=
          Session.run_inside (turn_running handle op) more w (.running op.start) [] events
        have hadmitted : Session.run fuel (.alone q w₀) = _ := hrun
        refine ⟨w', progress, reports, reports', hop, ?_⟩
        rw [Session.run_add, hadmitted]
        exact hq
  · cases hawaits

/-- Three tokens a second are earned, none is left, and the waiter tries ten times a second : a
third of a second after the last refill lies between its third and its fourth try. -/
theorem admitted_in_time_at_fourth_try :
    let l : Limiter := ⟨⟨0, 2, 3, 0⟩, { pollInterval := 100 * Time.millisecond }⟩
    let w₀ : World := { now := 50 * Time.millisecond, limiter? := some l }
    let op : Activity _ (Except Unit Nat) := .call fun _ => ⟨none, .ok 7⟩
    let q := executeWithWait { token := ⟨[0]⟩ } op
    0 < l.bucket.capacity ∧ 0 < l.bucket.rate ∧ Time.shortest ≤ l.config.pollInterval ∧
      l.bucket.lastRefill ≤ w₀.now ∧
      (List.range 4).map (l.pollAt w₀.now) = [50, 150, 250, 350].map (· * Time.millisecond) ∧
      ∃ fuel turns w events, Ledger q l w₀.now 4 3 turns ∧
        Session.run fuel (.alone q w₀) = ⟨w, [⟨q, .finished (.ok 7)⟩], events⟩ ∧
        w.calls = [350 * Time.millisecond] ∧
        w.limiter?.map (·.bucket) = some ⟨0, 2, 3, 350 * Time.millisecond⟩ := by
  intro l w₀ op q
  have hcapacity : 0 < l.bucket.capacity := by decide
  have hrate : 0 < l.bucket.rate := by decide
  have hinterval : Time.shortest ≤ l.config.pollInterval := by decide
  have hrefill : l.bucket.lastRefill ≤ w₀.now := by decide
  obtain ⟨k, -, hleast, -, -, fuel, turns, w, events, -, hledger, hnow, hcalls, -, hlimiter, -,
      hmore⟩ :=
    admitted_in_time { token := ⟨[0]⟩ } op w₀ l rfl hcapacity hrate hinterval hrefill
      (by rintro c ⟨⟩) ⟨rfl, rfl, by rintro c ⟨⟩⟩
  obtain ⟨hfound, hfirst⟩ := hleast rfl
  have hk : k = 3 := by
    have hle : k ≤ 3 := hfirst (show Time.second ≤ (l.pollAt w₀.now 3 - 0) * 3 by decide)
    rcases k with _ | _ | _ | k
    · exact absurd hfound (show ¬Time.second ≤ (l.pollAt w₀.now 0 - 0) * 3 by decide)
    · exact absurd hfound (show ¬Time.second ≤ (l.pollAt w₀.now 1 - 0) * 3 by decide)
    · exact absurd hfound (show ¬Time.second ≤ (l.pollAt w₀.now 2 - 0) * 3 by decide)
    · omega
  subst hk
  obtain ⟨w', progress, reports, reports', hop, hq⟩ := hmore 1
  rw [Session.alone, Slot.ofActivity, Session.run_of_step (Session.step?_of_ready rfl)] at hop
  obtain ⟨rfl, hslots, -⟩ := Session.mk.inj hop
  obtain rfl : .finished (.ok 7) = progress := congrArg Slot.progress (List.cons.inj hslots).1
  refine ⟨hcapacity, hrate, hinterval, hrefill, by decide, fuel + 1, turns, _, reports', hledger,
    hq, ?_, ?_⟩
  · show w.now :: w.calls = _
    rw [hcalls, hnow]
    decide
  · show w.limiter?.map _ = _
    rw [hlimiter, hnow]
    decide

end Resilience.Rate
