import Resilience.Proofs.Retry.Law

/-!
# The counters of a retry

A retry numbers its attempts by 32-bit words, and reports how many it has made and how many it may
make in such words. As long as there are fewer retries than the largest word, all of these numbers
are exact (`Plan.counters_law`). With as many retries as the largest word there is one attempt more
than can be counted : a retry that makes it exceeds its `maxAttempts` and reports that it has made
none (`Plan.counters_law_fails_at_limit`).
-/

namespace Resilience

namespace Retry

variable {ε α σ : Type}

/-- Where the retry stands between two attempts or in one, once it has begun. -/
def Stage.frame? : Stage σ → Option Frame
  | .opening => none
  | .checking f | .calling f _ | .pausing f _ => some f

/-- The largest 32-bit word. -/
def largest : UInt32 := UInt32.ofNat Number.word32Limit

theorem eq_largest_iff {n : UInt32} : n = largest ↔ n.toNat = Number.word32Limit := by
  rw [← UInt32.toNat_inj]
  rfl

theorem toNat_add_one {n : UInt32} (h : n ≠ largest) : (n + 1).toNat = n.toNat + 1 := by
  have hne := mt eq_largest_iff.2 h
  have hlt := n.toNat_lt
  rw [UInt32.toNat_add, UInt32.toNat_one, Nat.mod_eq_of_lt]
  rw [Number.word32Limit] at hne
  omega

/-- As many attempts as can be counted. -/
theorem Config.toNat_maxAttempts (c : Config) :
    c.maxAttempts.toNat = min (c.maxRetries.toNat + 1) Number.word32Limit := by
  unfold maxAttempts
  split <;> rename_i h
  · rw [h]
    decide
  · have hlt := (c.maxRetries + 1).toNat_lt
    rw [toNat_add_one h] at hlt ⊢
    rw [Number.word32Limit]
    omega

namespace Plan

variable {p : Plan ε α}

/-- A retry is exhausted by its last attempt alone. -/
theorem verdict_eq_exhausted {j : Nat} {attempts maxAttempts : UInt32} {e : ε}
    (h : p.verdict j = .error (.exhausted attempts maxAttempts e)) :
    j = p.retries ∧ attempts = p.config.maxRetries + 1 ∧ maxAttempts = p.config.maxAttempts := by
  unfold verdict conclusion at h
  split at h
  · cases h
  · split at h <;> cases h
    exact ⟨‹_›, rfl, rfl⟩

variable [Described ε] {handle : Cancellation} {t₀ : Nat} {m : Tally} {w₀ w : World}
  {turns : List (Trying ε α × World)} {progress : Progress (Trying ε α) (Except (Error ε) α)}

omit [Described ε] in
/-- A frame counts the attempts before its own, and of the calls its own too once it is made. -/
theorem Standing.frame (h : p.Standing handle t₀ m progress w) {s : Trying ε α}
    (hs : progress.state? = some s) {f : Frame} (hf : s.frame? = some f) :
    ∃ j ≤ p.retries, f.attempt.toNat = j ∧ (f.calls = j ∨ f.calls = j + 1) := by
  cases h with
  | opening =>
    cases hs
    cases hf
  | checking hj =>
    cases hs
    cases hf
    exact ⟨_, le_retries hj, toNat_attempt (le_retries hj) _, .inl rfl⟩
  | calling hj | answering hj | awaiting hj =>
    cases hs
    cases hf
    exact ⟨_, le_retries hj, toNat_attempt (le_retries hj) _, .inr rfl⟩
  | pausing hj | sleeping hj =>
    cases hs
    cases hf
    have hle := Nat.le_of_lt (lt_retries hj)
    exact ⟨_, hle, toNat_attempt hle _, .inr rfl⟩
  | settled => cases hs
  | interrupted => cases hs

/-- The frames of all turns on the course of a retry count so. -/
theorem frame_of_course (h : (p.under handle).Course w₀ turns progress w) {t : Trying ε α × World}
    (ht : t ∈ turns) {f : Frame} (hf : t.1.frame? = some f) :
    ∃ j ≤ p.retries, f.attempt.toNat = j ∧ (f.calls = j ∨ f.calls = j + 1) := by
  induction h with
  | start => cases ht
  | turn h hs ih =>
    rcases List.mem_append.1 ht with ht | ht
    · exact ih ht
    · cases List.mem_singleton.1 ht
      obtain ⟨m, hstanding, -⟩ := keeps_to_schedule h
      exact hstanding.frame (Progress.state?_of_ready hs) hf
  | others _ _ _ ih => exact ih ht

/-- An operation that always fails, and is tried again as often as it may be. -/
def failing (maxRetries : UInt32) : Plan IoError Nat where
  config := { maxRetries }
  worth _ := true
  samples _ := 0
  outcomes _ := ⟨none, .error ⟨.timedOut, none⟩⟩

/-- Such a retry ends by itself, with an attempt more than there are retries. -/
theorem failing_ends (n : UInt32) :
    let p := failing n
    let q := p.under { token := ⟨[0]⟩ }
    ∃ fuel₀ turns w events, q.Course {} turns
        (.finished (.error (.exhausted (n + 1) p.config.maxAttempts ⟨.timedOut, none⟩))) w ∧
      (q.callTimes turns).length = n.toNat + 1 ∧
      ∀ fuel ≥ fuel₀, Session.run fuel (.alone q {}) = ⟨w, [⟨q, .finished
        (.error (.exhausted (n + 1) p.config.maxAttempts ⟨.timedOut, none⟩))⟩], events⟩ := by
  intro p q
  have hstart : ({} : World).Steady ∧ Cancellation.NeverEnds { token := ⟨[0]⟩ } {} :=
    ⟨by rintro c ⟨⟩, rfl, rfl, by rintro c ⟨⟩⟩
  obtain ⟨fuel₀, turns, result, w, events, hcourse, ⟨-, hhandle⟩, hrun⟩ :=
    Activity.ends_alone (p.kept_alone _) (fun h => h.1) length_turns_le hstart
  obtain ⟨m, hstanding, hledger⟩ := keeps_to_schedule hcourse
  obtain ⟨i, hstops, -, rfl, rfl⟩ := hstanding.settled_of_live
    (Cancellation.check_eq_none_of_no_deadline hhandle.deadline hhandle.live)
  -- Every failure is worth another try, so that the last one is that of the last attempt.
  obtain rfl : i = p.retries := hstops.resolve_right (Bool.noConfusion ·)
  have hverdict : p.verdict p.retries =
      .error (.exhausted (n + 1) p.config.maxAttempts ⟨.timedOut, none⟩) := if_pos rfl
  rw [hverdict] at hcourse hrun
  refine ⟨fuel₀, turns, w, events, hcourse, ?_, hrun⟩
  rw [hledger.attempts, List.length_map, List.length_range]
  rfl

/-- Whatever others do, a retry calls the operation once more than there are retries at most. With
fewer retries than the largest word that is `maxAttempts`, no counter of it overflows, and a retry
that is exhausted says how often it has called the operation, which is `maxAttempts`. Otherwise it
may have called the operation once more than `maxAttempts`, and if it is exhausted it has. -/
theorem counters_law (p : Plan ε α) (handle : Cancellation)
    (h : (p.under handle).Course w₀ turns progress w) :
    let calls := ((p.under handle).callTimes turns).length
    calls ≤ p.retries + 1 ∧
    (p.config.maxAttempts.toNat < calls ↔
      p.config.maxRetries = largest ∧ calls = p.config.maxAttempts.toNat + 1) ∧
    (∀ t ∈ turns, ∀ f, t.1.frame? = some f → f.attempt.toNat ≤ f.calls ∧
      f.calls ≤ f.attempt.toNat + 1 ∧ f.attempt.toNat ≤ p.retries ∧
      (p.config.maxRetries ≠ largest →
        f.ordinal.toNat = f.attempt.toNat + 1 ∧ f.calls < UInt32.size)) ∧
    ∀ attempts maxAttempts e, progress = .finished (.error (.exhausted attempts maxAttempts e)) →
      maxAttempts = p.config.maxAttempts ∧ attempts ≤ maxAttempts ∧ calls = p.retries + 1 ∧
      (p.config.maxRetries ≠ largest → attempts.toNat = calls) ∧
      (p.config.maxRetries = largest → attempts = 0) := by
  intro calls
  obtain ⟨m, hstanding, hledger⟩ := keeps_to_schedule h
  have hcalls : calls = m.attempts := by
    show ((p.under handle).callTimes turns).length = _
    rw [hledger.attempts, List.length_map, List.length_range]
  have hle : calls ≤ p.retries + 1 := hcalls ▸ hstanding.attempts_le p.stops_retries
  have hmax := p.config.toNat_maxAttempts
  have hretries : p.config.maxRetries.toNat = p.retries := rfl
  have hlt : p.retries < UInt32.size := p.config.maxRetries.toNat_lt
  have hlargest := eq_largest_iff (n := p.config.maxRetries)
  have hsize : UInt32.size = 4294967296 := rfl
  rw [Number.word32Limit] at hmax hlargest
  refine ⟨hle, ?_, ?_, ?_⟩
  · rw [hlargest]
    omega
  · intro t ht f hf
    obtain ⟨j, hj, hattempt, hcount⟩ := frame_of_course h ht hf
    refine ⟨by omega, by omega, by omega, fun hne => ?_⟩
    have hfewer := mt hlargest.2 hne
    have hnext : f.attempt ≠ largest := by
      rw [Ne, eq_largest_iff, Number.word32Limit]
      omega
    exact ⟨toNat_add_one hnext, by omega⟩
  · rintro attempts maxAttempts e rfl
    generalize hresult : Except.error (Error.exhausted attempts maxAttempts e) = result at hstanding
    cases hstanding with
    | interrupted => cases hresult
    | settled =>
      obtain ⟨rfl, rfl, rfl⟩ := verdict_eq_exhausted hresult.symm
      have hcalls : calls = p.retries + 1 := hcalls
      by_cases hall : p.config.maxRetries = largest
      · have hzero : p.config.maxRetries + 1 = 0 := by
          rw [hall]
          decide
        rw [hzero]
        exact ⟨rfl, UInt32.zero_le, hcalls, fun hne => absurd hall hne, fun _ => rfl⟩
      · have hsucc := toNat_add_one hall
        have hfewer := mt hlargest.2 hall
        refine ⟨rfl, ?_, hcalls, fun _ => ?_, fun heq => absurd heq hall⟩
        · rw [UInt32.le_iff_toNat_le]
          omega
        · omega

/-- Three attempts that fail are all that may be made, and are counted as they are. -/
theorem counters_law_of_three_attempts :
    let q := (failing 2).under { token := ⟨[0]⟩ }
    ∃ turns w, q.Course {} turns (.finished (.error (.exhausted 3 3 ⟨.timedOut, none⟩))) w ∧
      (q.callTimes turns).length = 3 ∧ (3 : UInt32) = (failing 2).config.maxAttempts ∧
      ∀ t ∈ turns, ∀ f, t.1.frame? = some f →
        f.attempt.toNat ≤ 2 ∧ f.ordinal.toNat = f.attempt.toNat + 1 := by
  intro q
  obtain ⟨-, turns, w, -, hcourse, -⟩ := failing_ends 2
  have hmore : (failing 2).config.maxRetries ≠ largest := by decide
  obtain ⟨-, -, hframes, hend⟩ := counters_law (failing 2) { token := ⟨[0]⟩ } hcourse
  obtain ⟨hmax, -, hcalls, -⟩ := hend 3 3 ⟨.timedOut, none⟩ rfl
  refine ⟨turns, w, hcourse, hcalls, hmax, fun t ht f hf => ?_⟩
  obtain ⟨-, -, hattempt, hordinal⟩ := hframes t ht f hf
  exact ⟨hattempt, (hordinal hmore).1⟩

/-- An operation that is tried again without end, as far as attempts are counted. -/
def failsForever : Plan IoError Nat := failing largest

/-- A retry that may make 2^32 - 1 attempts makes one more, and says that it has made none. -/
theorem counters_law_fails_at_limit :
    let q := failsForever.under { token := ⟨[0]⟩ }
    failsForever.config.maxAttempts.toNat = 0xffffffff ∧ ∃ fuel₀ turns w events,
      q.Course {} turns (.finished (.error (.exhausted 0 0xffffffff ⟨.timedOut, none⟩))) w ∧
      (q.callTimes turns).length = 0x100000000 ∧
      ∀ fuel ≥ fuel₀, Session.run fuel (.alone q {}) =
        ⟨w, [⟨q, .finished (.error (.exhausted 0 0xffffffff ⟨.timedOut, none⟩))⟩], events⟩ := by
  intro q
  obtain ⟨fuel₀, turns, w, events, hcourse, hcalls, hrun⟩ := failing_ends largest
  have hordinal : largest + 1 = 0 := by decide
  have hmax : (failing largest).config.maxAttempts = 0xffffffff := by decide
  rw [hordinal, hmax] at hcourse hrun
  exact ⟨by decide, fuel₀, turns, w, events, hcourse, hcalls.trans (by decide), hrun⟩

end Plan

end Retry

end Resilience
