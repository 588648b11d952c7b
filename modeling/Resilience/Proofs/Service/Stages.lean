import Resilience.Proofs.Activity.Undertaking
import Resilience.Proofs.Rate.Bucket
import Resilience.Proofs.Retry.Deadline
import Resilience.Proofs.Service.Looking

/-!
# The stages of a look-up

How a look-up that is alone stands after each of its turns (`Service.Stands`). It is handed a
deadline, is let through by the limiter or refused, and finds the key in the cache or goes on to the
retry, which follows a plan fixed by the answers that the resolver would give (`Service.plan`). Up
to there the look-up does not wait, so that the worlds it goes through are determined by the one it
began in.
-/

namespace Resilience

open Retry (Stage)

/-! ## The limiter -/

namespace World

variable {w : World}

/-- There is a token in the bucket once it is refilled, or no limiter that wants one. -/
def Grants (w : World) : Prop := ∀ l, w.limiter? = some l → (l.bucket.refill w.now).tokens ≠ 0

/-- The limiter with its bucket refilled and `n` tokens taken out of it. -/
def drawn? (w : World) (n : Nat) : Option Rate.Limiter :=
  w.limiter?.map fun l => { l with bucket :=
    { l.bucket.refill w.now with tokens := (l.bucket.refill w.now).tokens - n } }

theorem drawn?_of_limiter {l : Rate.Limiter} (h : w.limiter? = some l) (n : Nat) :
    w.drawn? n = some { l with bucket :=
      { l.bucket.refill w.now with tokens := (l.bucket.refill w.now).tokens - n } } := by
  rw [drawn?, h, Option.map_some]

/-- A limiter grants a token if one is left after its refill. -/
theorem allow_of_limiter {l : Rate.Limiter} (h : w.limiter? = some l) :
    w.allow = (decide ((l.bucket.refill w.now).tokens ≠ 0), { w with limiter? := w.drawn? 1 }) := by
  rw [drawn?_of_limiter h]
  unfold allow Rate.Limiter.allow
  rw [h]
  simp only [Rate.Bucket.take_eq]

theorem exists_of_not_grants (h : ¬w.Grants) :
    ∃ l, w.limiter? = some l ∧ (l.bucket.refill w.now).tokens = 0 := by
  simpa [Grants] using h

theorem drawn?_of_not_grants (h : ¬w.Grants) : w.drawn? 1 = w.drawn? 0 := by
  obtain ⟨l, hl, htokens⟩ := exists_of_not_grants h
  rw [drawn?_of_limiter hl, drawn?_of_limiter hl, htokens]

end World

/-! ## The cache -/

namespace Cache.Expiring

variable {V : Type} {c : Expiring V} {key : String} {now : Nat}

/-- The cache after a read that hits. -/
def afterHit (c : Expiring V) (key : String) : Expiring V :=
  { c with store := { c.store with
    ranking := c.store.ranking.recordRead key, statistics := c.store.statistics.addHit } }

/-- The cache after a read that misses. -/
def afterMiss (c : Expiring V) : Expiring V :=
  { c with store := { c.store with statistics := c.store.statistics.addMiss } }

theorem get_of_live {value : V} (h : c.store.live? key now = some value) :
    (c.get key now).1 = some value ∧ (c.get key now).2.1 = c.afterHit key := by
  simp [get, Store.get, h, afterHit]

/-- Any other read counts a miss and changes nothing else. -/
theorem get_of_not_live (h : c.store.live? key now = none) :
    (c.get key now).1 = none ∧ (c.get key now).2.1 = c.afterMiss := by
  simp [get, Store.get, h, afterMiss]

end Cache.Expiring

namespace World

variable {w : World} {key : String}

theorem read_of_live {value : String} (h : w.live? key = some value) :
    (w.read key).1 = some value ∧
      (w.read key).2.1 = { w with cache? := w.cache?.map (·.afterHit key) } := by
  obtain ⟨c, hc, hlive⟩ := Option.bind_eq_some_iff.1 h
  obtain ⟨hvalue, hcache⟩ := Cache.Expiring.get_of_live hlive
  unfold read
  rw [hc, Option.map_some, ← hcache]
  exact ⟨hvalue, rfl⟩

theorem read_of_not_live (h : w.live? key = none) :
    (w.read key).1 = none ∧
      (w.read key).2.1 = { w with cache? := w.cache?.map (·.afterMiss) } := by
  unfold read
  cases hc : w.cache? with
  | none =>
    have hsame : { w with cache? := none } = w := by rw [← hc]
    exact ⟨rfl, hsame.symm⟩
  | some c =>
    have hlive : c.store.live? key w.now = none := by simpa [live?, hc] using h
    obtain ⟨hvalue, hcache⟩ := Cache.Expiring.get_of_not_live hlive
    rw [Option.map_some, ← hcache]
    exact ⟨hvalue, rfl⟩

/-! ## The worlds that a look-up goes through -/

/-- The look-up has its handle. -/
def begun (w : World) : World := { w with tokens := w.tokens.fresh.2 }

/-- It has been let through. -/
def admitted (w : World) : World := { w.begun with limiter? := w.drawn? 1 }

/-- It has found the key in the cache. -/
def hit (w : World) (key : String) : World :=
  { w.admitted with cache? := w.cache?.map (·.afterHit key) }

/-- It has not found the key in the cache. -/
def missed (w : World) : World := { w.admitted with cache? := w.cache?.map (·.afterMiss) }

end World

namespace Service

variable (s : Service) (key : String) (handle : Cancellation) {w : World}

/-! ## Turns before the retry -/

/-- The handle of a look-up that begins in the world `w`. -/
def handleIn (w : World) : Cancellation :=
  .withTimeout { token := w.tokens.fresh.1 } w.now lookupTimeout

/-- A key that is too long is refused at once. -/
theorem turn_of_long (hkey : keyLimit < key.utf8ByteSize) (w : World) :
    (s.lookup key).turn none w = ⟨w, [], .finished (.error keyTooLong)⟩ := by
  simp only [lookup, Activity.prepare, checkKey, if_pos hkey]

/-- Any other key is given a handle, with a token of its own. -/
theorem turn_of_short (hkey : key.utf8ByteSize ≤ keyLimit) (w : World) :
    (s.lookup key).turn none w = ⟨w.begun, [], .running (some (handleIn w, none))⟩ := by
  simp only [lookup, Activity.prepare, checkKey, if_neg (Nat.not_lt_of_le hkey)]
  rfl

/-- A key that is not too long is looked up under a handle of its own. -/
theorem turn_opening (hkey : key.utf8ByteSize ≤ keyLimit) :
    ((s.lookup key).turn none w).upshot = (.running (some (handleIn w, none)), w.begun) := by
  rw [turn_of_short s key hkey]
  rfl

/-- With a token to be had the look-up takes it and goes on. -/
theorem turn_admission_of_grants (h : w.Grants) :
    ((s.lookup key).turn (some (handle, none)) w).upshot =
      (.running (some (handle, some none)), { w with limiter? := w.drawn? 1 }) := by
  simp only [lookup, Activity.prepare, guarded, Activity.map, Rate.execute, Turn.upshot_inside]
  cases hl : w.limiter? with
  | none =>
    have hdrawn : w.drawn? 1 = w.limiter? := by rw [World.drawn?, hl, Option.map_none]
    rw [hdrawn]
    rfl
  | some l =>
    simp only [World.allow_of_limiter hl, decide_eq_true (h l hl), if_true]
    rfl

theorem turn_admission_of_not_grants (h : ¬w.Grants) :
    ((s.lookup key).turn (some (handle, none)) w).upshot =
      (.finished (.error .rateLimited), { w with limiter? := w.drawn? 0 }) := by
  obtain ⟨l, hl, htokens⟩ := World.exists_of_not_grants h
  simp only [lookup, Activity.prepare, guarded, Activity.map, Rate.execute, Turn.upshot_inside, hl,
    World.allow_of_limiter hl, htokens, ne_eq, not_true, decide_false, Bool.false_eq_true, if_false,
    World.drawn?_of_not_grants h]
  rfl

theorem turn_reading_of_live {value : String} (h : w.live? key = some value) :
    ((s.lookup key).turn (some (handle, some none)) w).upshot =
      (.finished (.ok ⟨key, value, true⟩), { w with cache? := w.cache?.map (·.afterHit key) }) := by
  obtain ⟨hvalue, hworld⟩ := World.read_of_live h
  rw [upshot_admitted]
  simp only [computing, Cache.getOrCompute, hvalue, hworld]
  rfl

theorem turn_reading_of_not_live (h : w.live? key = none) :
    ((s.lookup key).turn (some (handle, some none)) w).upshot =
      (.running (inRetry handle .opening), { w with cache? := w.cache?.map (·.afterMiss) }) := by
  obtain ⟨hvalue, hworld⟩ := World.read_of_not_live h
  rw [upshot_admitted]
  simp only [computing, Cache.getOrCompute, hvalue, hworld]
  rfl

/-! ## Turns of the retry -/

theorem upshot_inRetry (stage : Stage Resolving) :
    ((s.lookup key).turn (inRetry handle stage) w).upshot =
      match ((s.retrying key handle).turn stage w).upshot with
      | (.running stage, w) => (.running (inRetry handle stage), w)
      | (.waiting stage wait, w) => (.waiting (inRetry handle stage) wait, w)
      | (.finished (.ok value), w) =>
        (.finished (.ok ⟨key, value, false⟩), (w.store key value none).1)
      | (.finished (.error e), w) => (.finished (.error (.ofRetry e)), w) := by
  rw [upshot_admitted]
  simp only [computing, Cache.getOrCompute, Turn.upshot_inside]
  generalize ((s.retrying key handle).turn stage w).upshot = u
  obtain ⟨_ | _ | _ | _, _⟩ := u <;> rfl

variable {s key}

/-- What the retry of a look-up is given besides its handle, if operations were called `n` times
before. -/
def plan (s : Service) (key : String) (n : Nat) : Retry.Plan IoError String where
  config := s.retry
  worth := isRetryable
  samples := s.samples
  outcomes j := { result := s.resolver (n + j) key }

/-- The retry of a look-up that begins in the world `w`, according to its plan. -/
abbrev planned (s : Service) (key : String) (w : World) :
    Activity (Stage Resolving) (Except (Retry.Error IoError) String) :=
  (s.plan key w.calls.length).under (handleIn w)

/-- Alone, the retry goes according to its plan : no other calls come between its own, so that the
resolver answers each attempt as planned. -/
theorem turn_retrying {w₀ : World} {turns : List (Stage Resolving × World)}
    {progress : Progress (Stage Resolving) (Except (Retry.Error IoError) String)}
    (h : (s.planned key w₀).Solo w₀.missed turns progress w) {stage : Stage Resolving}
    (hs : progress.ready? w = some stage) :
    (s.retrying key (handleIn w₀)).turn stage w = (s.planned key w₀).turn stage w := by
  cases stage with
  | opening => rfl
  | checking f => rfl
  | pausing f wait => rfl
  | calling f state =>
    obtain ⟨m, hstanding, hledger⟩ := Retry.Plan.keeps_to_schedule h.course
    cases hstanding with
    | @calling j _ hj hnow hlive =>
      cases hs
      have hcalls : w.calls.length = w₀.calls.length + j := by
        rw [Retry.Plan.calls_of_solo h, hledger.attempts]
        simp [World.missed, World.admitted, World.begun, Nat.add_comm]
      simp only [retrying, planned, Retry.runClassified, Retry.Plan.under, Retry.execute, resolve,
        Retry.operations, Activity.call, plan, Retry.Plan.frame, hcalls, Nat.add_sub_cancel]
    | answering _ hd | awaiting _ hd => cases hd
    | opening | checking | pausing => cases hs
    | sleeping =>
      have hready := Progress.state?_of_ready hs
      cases hready
    | settled | interrupted => cases hs

/-! ## The stages -/

/-- How a look-up that began in the world `w₀`, and is alone, can stand after so many turns. -/
inductive Stands (s : Service) (key : String) (w₀ : World) :
    Nat → Progress LookState (Except Error Found) → World → Prop
  | opening : Stands s key w₀ 0 (.running none) w₀
  | admission : Stands s key w₀ 1 (.running (some (handleIn w₀, none))) w₀.begun
  | refused (hgrants : ¬w₀.Grants) :
      Stands s key w₀ 2 (.finished (.error .rateLimited)) { w₀.begun with limiter? := w₀.drawn? 0 }
  | reading (hgrants : w₀.Grants) :
      Stands s key w₀ 2 (.running (some (handleIn w₀, some none))) w₀.admitted
  | hit {value} (hgrants : w₀.Grants) (hlive : w₀.live? key = some value) :
      Stands s key w₀ 3 (.finished (.ok ⟨key, value, true⟩)) (w₀.hit key)
  | running {turns stage w} (hgrants : w₀.Grants) (hlive : w₀.live? key = none)
      (hsolo : (s.planned key w₀).Solo w₀.missed turns (.running stage) w) :
      Stands s key w₀ (turns.length + 3) (.running (inRetry (handleIn w₀) stage)) w
  | waiting {turns stage wait w} (hgrants : w₀.Grants) (hlive : w₀.live? key = none)
      (hsolo : (s.planned key w₀).Solo w₀.missed turns (.waiting stage wait) w) :
      Stands s key w₀ (turns.length + 3) (.waiting (inRetry (handleIn w₀) stage) wait) w
  | answered {turns value w} (hgrants : w₀.Grants) (hlive : w₀.live? key = none)
      (hsolo : (s.planned key w₀).Solo w₀.missed turns (.finished (.ok value)) w) :
      Stands s key w₀ (turns.length + 3) (.finished (.ok ⟨key, value, false⟩))
        (w.store key value none).1
  | failed {turns e w} (hgrants : w₀.Grants) (hlive : w₀.live? key = none)
      (hsolo : (s.planned key w₀).Solo w₀.missed turns (.finished (.error e)) w) :
      Stands s key w₀ (turns.length + 3) (.finished (.error (.ofRetry e))) w

namespace Stands

variable {w₀ : World} {n : Nat} {progress : Progress LookState (Except Error Found)}

/-- A turn of the retry is one of the look-up. -/
theorem turn_of_retry (hgrants : w₀.Grants) (hlive : w₀.live? key = none)
    {turns : List (Stage Resolving × World)} {stage : Stage Resolving}
    {retry : Progress (Stage Resolving) (Except (Retry.Error IoError) String)}
    (hsolo : (s.planned key w₀).Solo w₀.missed turns retry w) (hs : retry.ready? w = some stage) :
    Stands s key w₀ (turns.length + 4)
      ((s.lookup key).turn (inRetry (handleIn w₀) stage) w).upshot.1
      ((s.lookup key).turn (inRetry (handleIn w₀) stage) w).upshot.2 := by
  have hnext := hsolo.turn hs
  have hlength : (turns ++ [(stage, w)]).length + 3 = turns.length + 4 := by simp
  rw [upshot_inRetry, turn_retrying hsolo hs, ← hlength]
  unfold Turn.upshot
  generalize (s.planned key w₀).turn stage w = t at hnext
  obtain ⟨w', events, progress'⟩ := t
  cases progress' with
  | running stage' => exact .running hgrants hlive hnext
  | waiting stage' wait => exact .waiting hgrants hlive hnext
  | finished result =>
    cases result with
    | ok value => exact .answered hgrants hlive hnext
    | error e => exact .failed hgrants hlive hnext

/-- The look-up stands as it should after its next turn. -/
theorem turn (hkey : key.utf8ByteSize ≤ keyLimit) (h : Stands s key w₀ n progress w)
    {state : LookState} (hs : progress.ready? w = some state) :
    Stands s key w₀ (n + 1) ((s.lookup key).turn state w).upshot.1
      ((s.lookup key).turn state w).upshot.2 := by
  cases h with
  | opening =>
    cases hs
    rw [turn_opening s key hkey]
    exact .admission
  | admission =>
    cases hs
    by_cases hgrants : w₀.Grants
    · have hturn := turn_admission_of_grants s key (handleIn w₀) (w := w₀.begun) hgrants
      rw [hturn]
      exact .reading hgrants
    · have hturn := turn_admission_of_not_grants s key (handleIn w₀) (w := w₀.begun) hgrants
      rw [hturn]
      exact .refused hgrants
  | reading hgrants =>
    cases hs
    cases hlive : w₀.live? key with
    | some value =>
      have hturn := turn_reading_of_live s key (handleIn w₀) (w := w₀.admitted) hlive
      rw [hturn]
      exact .hit hgrants hlive
    | none =>
      have hturn := turn_reading_of_not_live s key (handleIn w₀) (w := w₀.admitted) hlive
      rw [hturn]
      exact .running hgrants hlive .start
  | running hgrants hlive hsolo =>
    cases hs
    exact turn_of_retry hgrants hlive hsolo rfl
  | @waiting turns stage wait _ hgrants hlive hsolo =>
    obtain ⟨hpoll, rfl⟩ : wait.poll w.tokens w.now ≠ .pending ∧
        inRetry (handleIn w₀) stage = state := by
      simpa [Progress.ready?] using hs
    exact turn_of_retry hgrants hlive hsolo (by simp [Progress.ready?, hpoll])
  | refused | hit | answered | failed => cases hs

/-- A look-up that is alone goes through the stages. -/
theorem of_solo (hkey : key.utf8ByteSize ≤ keyLimit) {turns : List (LookState × World)}
    (h : (s.lookup key).Solo w₀ turns progress w) : Stands s key w₀ turns.length progress w := by
  induction h with
  | start => exact .opening
  | turn _ hs ih =>
    rw [List.length_append, List.length_singleton]
    exact ih.turn hkey hs
  | @background turns _ _ _ _ ih =>
    generalize turns.length = n at ih ⊢
    cases ih with
    | waiting hgrants hlive hsolo => exact .waiting hgrants hlive hsolo.background
  | @advance turns _ _ _ t _ ht ih =>
    generalize turns.length = n at ih ⊢
    cases ih with
    | waiting hgrants hlive hsolo => exact .waiting hgrants hlive (hsolo.advance t ht)

/-- A look-up takes at most so many turns, wherever it stands. -/
theorem turns_le (h : Stands s key w₀ n progress w) :
    n ≤ 6 * s.retry.maxRetries.toNat + 10 := by
  cases h with
  | opening | admission | refused | reading | hit => omega
  | running _ _ hsolo | waiting _ _ hsolo | answered _ _ hsolo | failed _ _ hsolo =>
    exact Nat.add_le_add_right (Retry.Plan.length_turns_le hsolo.course) 3

end Stands

end Service

end Resilience
