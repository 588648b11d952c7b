import Resilience.Cancellation

/-!
# Waits and the handles that end them

How far a wait has come says which of its timers have fired and what has become of its handle
(`Wait.poll_eq_pending_iff`, `Wait.poll_eq_over_iff`, `Wait.poll_eq_interrupted_iff`). A wait that
its handle interrupts ends with the reason for which the handle has ended at that very instant
(`Cancellation.check_of_waited`). As long as nothing has ended a wait its next timer lies ahead
(`Wait.now_lt_nextTick`). A token that is called off stays so.
-/

namespace Resilience

/-- A timer has fired once its first whole millisecond has come. -/
theorem Time.fired_iff {t now : Nat} : fired t now = true ↔ tick t ≤ now := decide_eq_true_iff

theorem Time.fired_eq_false_iff {t now : Nat} : fired t now = false ↔ now < tick t := by
  rw [Bool.eq_false_iff, ne_eq, fired_iff, Nat.not_le]

/-- Before the end of the clock the horizon puts nothing off. -/
theorem Time.le_add_of_le_after {t d now : Nat} (h : now ≤ after t d)
    (hclock : now < limit ∨ t = now) : now ≤ t + d := by
  rcases hclock with hlimit | rfl
  · unfold after after? at h
    split at h
    · exact h
    · omega
  · exact Nat.le_add_right _ _

/-- Whether calling `u` off calls `t` off with it. -/
def Token.CallsOff (u t : Token) : Prop := ∃ own ∈ u.lineage.head?, own ∈ t.lineage

namespace Tokens

theorem cancel_eq (ts : Tokens) (t : Token) :
    ts.cancel t = { ts with cancelled := t.lineage.head?.toList ++ ts.cancelled } := by
  unfold cancel
  cases t.lineage <;> rfl

variable {ts : Tokens} {t : Token}

/-- A token is called off if it was before or one above it is now. -/
theorem isCancelled_cancel_iff {u : Token} :
    (ts.cancel u).isCancelled t = true ↔ ts.isCancelled t = true ∨ u.CallsOff t := by
  unfold cancel Token.CallsOff
  cases hu : u.lineage with
  | nil => simp
  | cons own rest =>
    simp only [isCancelled, List.any_eq_true, List.contains_iff_mem, List.mem_cons,
      List.head?_cons, Option.mem_some_iff, exists_eq_left']
    constructor
    · rintro ⟨number, hnumber, rfl | hin⟩
      · exact .inr hnumber
      · exact .inl ⟨number, hnumber, hin⟩
    · rintro (⟨number, hnumber, hin⟩ | hown)
      · exact ⟨number, hnumber, .inr hin⟩
      · exact ⟨own, hown, .inl rfl⟩

theorem isCancelled_cancels_iff {due : List (Nat × Token)} :
    (due.foldl (fun ts c => ts.cancel c.2) ts).isCancelled t = true ↔
      ts.isCancelled t = true ∨ ∃ c ∈ due, c.2.CallsOff t := by
  induction due generalizing ts with
  | nil => simp
  | cons c due ih =>
    simp only [List.foldl_cons, ih, isCancelled_cancel_iff, or_assoc, List.mem_cons,
      exists_eq_or_imp]

theorem isCancelled_cancels (h : ts.isCancelled t = true) (due : List (Nat × Token)) :
    (due.foldl (fun ts c => ts.cancel c.2) ts).isCancelled t = true :=
  isCancelled_cancels_iff.2 (.inl h)

end Tokens

namespace Cancellation

variable {c : Cancellation} {ts : Tokens} {now : Nat} {reason : Interruption}

theorem check_congr {ts' : Tokens} (h : ts.isCancelled c.token = ts'.isCancelled c.token) :
    c.check ts now = c.check ts' now := by
  rw [check, check, h]

/-- A check tells nothing while the token stands and the deadline is to come. -/
theorem check_eq_none_iff : c.check ts now = none ↔
    ts.isCancelled c.token = false ∧ ∀ d, c.deadline? = some d → now < d := by
  unfold check
  cases ts.isCancelled c.token with
  | true => simp
  | false => cases c.deadline? <;> simp

theorem check_eq_none_of_no_deadline (hdeadline : c.deadline? = none)
    (hlive : ts.isCancelled c.token = false) : c.check ts now = none :=
  check_eq_none_iff.2 ⟨hlive, fun d hd => by simp [hdeadline] at hd⟩

theorem waited_eq (c : Cancellation) (ts : Tokens) (now : Nat) : c.waited ts now =
    bif ts.isCancelled c.token then .interrupted .cancelled
    else bif c.deadline?.any (Time.fired · now) then .interrupted .deadlineExceeded
    else .pending := by
  unfold waited
  generalize c.deadline?.any (Time.fired · now) = reached
  generalize ts.isCancelled c.token = cancelled
  cases cancelled <;> cases reached <;> rfl

/-- A wait is not over for a handle while its token stands and its deadline has not fired. -/
theorem waited_eq_pending_iff : c.waited ts now = .pending ↔
    ts.isCancelled c.token = false ∧ ∀ d, c.deadline? = some d → Time.fired d now = false := by
  have hany : c.deadline?.any (Time.fired · now) = false ↔
      ∀ d, c.deadline? = some d → Time.fired d now = false := by
    rw [Bool.eq_false_iff, ne_eq, Option.any_eq_true]
    simp only [not_exists, not_and, Bool.not_eq_true]
  rw [waited_eq, ← hany]
  generalize c.deadline?.any (Time.fired · now) = reached
  cases ts.isCancelled c.token <;> cases reached <;> simp

theorem waited_ne_over : c.waited ts now ≠ .over := by
  rw [waited_eq]
  generalize c.deadline?.any (Time.fired · now) = reached
  cases ts.isCancelled c.token <;> cases reached <;> simp

/-- What interrupts a wait is the reason for which the handle has ended. -/
theorem check_of_waited (h : c.waited ts now = .interrupted reason) :
    c.check ts now = some reason := by
  have hreached : c.deadline?.any (Time.fired · now) = true → c.deadline?.any (· ≤ now) = true := by
    simp only [Option.any_eq_true, decide_eq_true_eq]
    rintro ⟨d, hd, hfired⟩
    exact ⟨d, hd, Time.le_of_fired hfired⟩
  rw [waited_eq] at h
  unfold check
  generalize c.deadline?.any (Time.fired · now) = reached at h hreached
  generalize ts.isCancelled c.token = cancelled at h ⊢
  cases cancelled with
  | true => simpa using h
  | false =>
    cases reached with
    | true => simpa [hreached rfl] using h
    | false => simp at h

end Cancellation

namespace Wait

variable {wait : Wait} {ts : Tokens} {now : Nat}

/-- A wait is interrupted by its handle alone. -/
theorem poll_eq_interrupted_iff {reason : Interruption} :
    wait.poll ts now = .interrupted reason ↔
      ∃ c, wait.handle? = some c ∧ c.waited ts now = .interrupted reason := by
  unfold poll
  cases wait.handle? with
  | none =>
    simp only [Option.map_none, Option.getD_none, reduceCtorEq, false_and, exists_false, iff_false]
    split <;> simp
  | some c =>
    simp only [Option.map_some, Option.getD_some, Option.some.injEq, exists_eq_left']
    split <;> rename_i hc
    · exact ⟨fun h => hc.trans h, fun h => hc.symm.trans h⟩
    · constructor
      · split <;> simp
      · exact fun h => absurd h (hc reason)

/-- As long as the handle does not interrupt it, a wait goes by its own timer. -/
theorem poll_of_pending (h : ∀ c, wait.handle? = some c → c.waited ts now = .pending) :
    wait.poll ts now = if Time.fired wait.ends now then .over else .pending := by
  unfold poll
  cases hc : wait.handle? with
  | none => rfl
  | some c => rw [Option.map_some, Option.getD_some, h c hc]

theorem waited_of_poll (h : ∀ reason, wait.poll ts now ≠ .interrupted reason) :
    ∀ c, wait.handle? = some c → c.waited ts now = .pending := by
  intro c hc
  cases hw : c.waited ts now with
  | pending => rfl
  | «over» => exact absurd hw Cancellation.waited_ne_over
  | interrupted reason => exact absurd (poll_eq_interrupted_iff.2 ⟨c, hc, hw⟩) (h reason)

/-- A wait goes on until its end fires, unless it is interrupted. -/
theorem poll_eq_pending_iff : wait.poll ts now = .pending ↔
    Time.fired wait.ends now = false ∧ ∀ c, wait.handle? = some c → c.waited ts now = .pending := by
  constructor
  · intro h
    have hc := waited_of_poll (fun reason heq => by rw [h] at heq; cases heq)
    rw [poll_of_pending hc] at h
    exact ⟨by simpa using h, hc⟩
  · rintro ⟨hends, hc⟩
    rw [poll_of_pending hc, hends]
    rfl

/-- A wait is over once its end has fired, unless it is interrupted. -/
theorem poll_eq_over_iff : wait.poll ts now = .over ↔
    Time.fired wait.ends now = true ∧ ∀ c, wait.handle? = some c → c.waited ts now = .pending := by
  constructor
  · intro h
    have hc := waited_of_poll (fun reason heq => by rw [h] at heq; cases heq)
    rw [poll_of_pending hc] at h
    exact ⟨by simpa using h, hc⟩
  · rintro ⟨hends, hc⟩
    rw [poll_of_pending hc, hends]
    rfl

/-- A pause is over no sooner than its timer fires. -/
theorem tick_le_of_pause {t d : Nat} (h : (pause t d).poll ts now ≠ .pending) :
    Time.tick (Time.after t d) ≤ now := by
  have hends : (pause t d).ends = Time.after t d := rfl
  rw [poll_of_pending (by rintro c ⟨⟩), hends] at h
  cases hfired : Time.fired (Time.after t d) now with
  | true => exact Time.fired_iff.1 hfired
  | false => simp [hfired] at h

theorem nextTick_of_deadline {d : Nat} (h : wait.handle?.bind Cancellation.deadline? = some d) :
    wait.nextTick = Time.tick (min d wait.ends) := by
  rw [nextTick, h]

theorem nextTick_of_none (h : wait.handle?.bind Cancellation.deadline? = none) :
    wait.nextTick = Time.tick wait.ends := by
  rw [nextTick, h]

/-- A wait ends with its own end at the latest. -/
theorem nextTick_le (wait : Wait) : wait.nextTick ≤ Time.tick wait.ends := by
  cases h : wait.handle?.bind Cancellation.deadline? with
  | none => exact Nat.le_of_eq (nextTick_of_none h)
  | some d =>
    rw [nextTick_of_deadline h]
    exact Time.tick_mono (Nat.min_le_right _ _)

/-- As long as nothing has ended a wait, its next timer lies ahead. -/
theorem now_lt_nextTick (h : wait.poll ts now = .pending) : now < wait.nextTick := by
  obtain ⟨hends, hc⟩ := poll_eq_pending_iff.1 h
  cases hd : wait.handle?.bind Cancellation.deadline? with
  | none =>
    rw [nextTick_of_none hd]
    exact Time.fired_eq_false_iff.1 hends
  | some d =>
    rw [nextTick_of_deadline hd]
    obtain ⟨c, hhandle, hdeadline⟩ := Option.bind_eq_some_iff.1 hd
    have hahead := (Cancellation.waited_eq_pending_iff.1 (hc c hhandle)).2 d hdeadline
    rcases Nat.le_total d wait.ends with hle | hle
    · rw [Nat.min_eq_left hle]
      exact Time.fired_eq_false_iff.1 hahead
    · rw [Nat.min_eq_right hle]
      exact Time.fired_eq_false_iff.1 hends

end Wait

end Resilience
