import Resilience.Proofs.Activity.Reports
import Resilience.Proofs.Retry.Counters

/-!
# What a retry reports

The trace of a retry accounts for the run (`Plan.trace_accounts_for_run`) : its start with the
number of attempts allowed, one warning for each wait, one entry that says how the retry ended, the
number of attempts made, the failure if there is one, and its end. This holds for any operation,
which may report on its own and do to the world what it likes, calling off the handle included ; the
reports of the operation are left out.

A wait that the handle refuses at once is begun all the same. `Plan.begins` and `Plan.asksToWait`
say in which turns attempts and waits begin, without a look at the reports. What has been told in
each stage is `Plan.Told`, with the failures so far : each turn adds to it what it reports
(`Plan.Told.turn`).
-/

namespace Resilience

namespace Telemetry

/-- Whether an event is a log entry of this level with this message. -/
def Event.isEntry (level : Level) (message : String) : Event → Bool
  | .logged l text _ => l == level && text == message
  | _ => false

/-- Whether an event is a failure recorded in a span. -/
def Event.isFailure : Event → Bool
  | .failed .. => true
  | _ => false

/-- How many of the events are log entries of this level with this message. -/
def entriesAt (level : Level) (message : String) (events : List Event) : Nat :=
  events.countP (·.isEntry level message)

/-- How many failures are recorded. -/
def failuresRecorded (events : List Event) : Nat := events.countP Event.isFailure

end Telemetry

theorem Progress.ready?_of_over {σ α : Type} {s : σ} {wait : Wait} {w : World}
    (h : wait.poll w.tokens w.now = .over) :
    (Progress.waiting s wait : Progress σ α).ready? w = some s := by
  simp [ready?, h]

/-- A course goes on with a turn of which only the upshot is known. -/
theorem Activity.Course.turn_of_upshot {σ α : Type} {p : Activity σ α} {w₀ w u : World}
    {turns : List (σ × World)} {progress progress' : Progress σ α} {s : σ}
    (h : p.Course w₀ turns progress w) (hs : progress.ready? w = some s)
    (hturn : (p.turn s w).upshot = (progress', u)) :
    p.Course w₀ (turns ++ [(s, w)]) progress' u := by
  cases hturn
  exact h.turn hs

namespace Retry

open Telemetry (Event Level entriesAt failuresRecorded)

variable {σ ε α : Type}

theorem countP_snoc {β : Type} (P : β → Bool) (bs : List β) (b : β) :
    (bs ++ [b]).countP P = bs.countP P + (P b).toNat := by
  rw [List.countP_append, List.countP_singleton]
  cases P b <;> rfl

theorem wordText_ofNat {n : Nat} (h : n < UInt32.size) : wordText (.ofNat n) = toString n := by
  rw [wordText, UInt32.toNat_ofNat_of_lt' h]

/-- Whether a result is a failure of such a kind. -/
def failsAs (kind : Error ε → Bool) : Except (Error ε) α → Bool
  | .ok _ => false
  | .error e => kind e

/-- Whether an attempt leads to a wait, be it one that the handle refuses at once. -/
def leadsToWait : Progress (Stage σ) (Except (Error ε) α) → Bool
  | .running (.pausing ..) | .finished (.error (.interrupted _)) => true
  | _ => false

/-- The operation's part in a turn, if it has one. -/
def attempted? (op : Nat → Activity σ (Except ε α)) : Stage σ × World → Option (Turn σ (Except ε α))
  | (.calling f s, w) => some ((op (f.calls - 1)).turn s w)
  | _ => none

/-- What a failed attempt adds to the failures. -/
def failureOf : Except ε α → List ε
  | .ok _ => []
  | .error e => [e]

/-- The failure in which an attempt ends in this turn, if one does. -/
def failuresIn (op : Nat → Activity σ (Except ε α)) (t : Stage σ × World) : List ε :=
  match attempted? op t with
  | some ⟨_, _, .finished result⟩ => failureOf result
  | _ => []

namespace Plan

variable [Described ε] (p : Plan ε α)

/-- The retry of any operation in place of those with the outcomes of the plan. -/
def trying (handle : Cancellation) (op : Nat → Activity σ (Except ε α)) :
    Activity (Stage σ) (Except (Error ε) α) :=
  execute p.config handle p.worth p.samples op

/-- A retry of scripted operations is one of operations like any other. -/
theorem trying_operations (handle : Cancellation) :
    p.trying handle (operations p.outcomes) = p.under handle := rfl

/-! ## What is counted -/

section Turns

variable (handle : Cancellation) (op : Nat → Activity σ (Except ε α)) (t : Stage σ × World)

/-- Whether an attempt begins in this turn. -/
def begins : Bool :=
  match t.1, ((p.trying handle op).turn t.1 t.2).progress with
  | .checking _, .running (.calling ..) => true
  | _, _ => false

/-- Whether the handle is asked for a wait in this turn. -/
def asksToWait : Bool :=
  match t.1 with
  | .calling .. => leadsToWait ((p.trying handle op).turn t.1 t.2).progress
  | _ => false

/-- The events of this turn without those of the operation, which come before. -/
def ownEvents : List Event :=
  ((p.trying handle op).turn t.1 t.2).events.drop
    (((attempted? op t).map fun inner => inner.events.length).getD 0)

end Turns

/-! ## The trace -/

/-- The warning after the attempt `j`, which has failed with `e`. -/
def warning (j : Nat) (e : ε) : Event :=
  .warn "attempt failed, retrying"
    [⟨"attempt", toString (j + 1)⟩, ⟨"max_attempts", toString (p.retries + 1)⟩,
     ⟨"delay_ms", toString (Time.toMillis (p.delay j))⟩, ⟨"error", describe e⟩]

/-- What has been reported once the failures `es` have been followed by waits. -/
def preamble (es : List ε) : List Event :=
  [.opened span, .noted span "retry.max_attempts" (toString (p.retries + 1))] ++
    es.mapIdx p.warning

/-- How the trace of a retry ends that has made so many attempts. -/
def coda (attempts : Nat) (result : Except (Error ε) α) : List Event :=
  [.noted span "retry.attempts" (toString attempts)] ++
    (match result with
      | .ok _ => []
      | .error e => [.failed span (describe e)]) ++
    [.closed span]

/-- How a retry parts : its result, the attempts made, the failures that were followed by waits, all
failures, and what it says of its end. -/
inductive Parting :
    Except (Error ε) α → Nat → List ε → List ε → List Event → Prop
  | atOnce {a} : Parting (.ok a) 1 [] [] []
  | succeeded {a es} (hes : es ≠ []) :
      Parting (.ok a) (es.length + 1) es es
        [.debug "retry succeeded" [⟨"attempt", toString (es.length + 1)⟩]]
  | exhausted {es e} (hes : es.length = p.retries) :
      Parting (.error (.exhausted (.ofNat (es.length + 1)) (.ofNat (p.retries + 1)) e))
        (es.length + 1) es (es ++ [e])
        [.error "retry exhausted"
          [⟨"attempts", toString (es.length + 1)⟩, ⟨"max_attempts", toString (p.retries + 1)⟩,
           ⟨"error", describe e⟩]]
  | aborted {es e} (hes : es.length < p.retries) (hworth : p.worth e = false) :
      Parting (.error (.aborted e)) (es.length + 1) es (es ++ [e])
        [.debug "retry aborted on non-retryable error"
          [⟨"attempt", toString (es.length + 1)⟩, ⟨"error", describe e⟩]]
  | beforeAttempt {reason es} (hes : es.length ≤ p.retries) :
      Parting (.error (.interrupted reason)) es.length es es
        [.info "retry cancelled before attempt"
          [⟨"attempt", toString (es.length + 1)⟩, ⟨"reason", describe reason⟩]]
  | duringWait {reason es e} (hes : es.length < p.retries) (hworth : p.worth e = true) :
      Parting (.error (.interrupted reason)) (es.length + 1) (es ++ [e]) (es ++ [e])
        [.info "retry cancelled during backoff"
          [⟨"attempt", toString (es.length + 1)⟩, ⟨"reason", describe reason⟩]]

/-- What has been told by a retry that stands like this : the attempts and the waits begun, the
failures and the events. -/
inductive Told : Nat → Nat → List ε → List Event →
    Progress (Stage σ) (Except (Error ε) α) → Prop
  | opening : Told 0 0 [] [] (.running .opening)
  | checking {es} (hes : es.length ≤ p.retries) :
      Told es.length es.length es (p.preamble es)
        (.running (.checking (p.frame es.length es.length)))
  | calling {es s progress} (hes : es.length ≤ p.retries)
      (hs : progress.state? = some (.calling (p.frame es.length (es.length + 1)) s)) :
      Told (es.length + 1) es.length es (p.preamble es) progress
  | pausing {es e wait progress} (hes : es.length < p.retries) (hworth : p.worth e = true)
      (hs : progress.state? = some (.pausing (p.frame es.length (es.length + 1)) wait)) :
      Told (es.length + 1) (es.length + 1) (es ++ [e]) (p.preamble (es ++ [e])) progress
  | finished {result attempts waited es entries}
      (h : p.Parting result attempts waited es entries) :
      Told attempts waited.length es (p.preamble waited ++ entries ++ coda attempts result)
        (.finished result)

/-- The trace of a retry that came to this result after so many attempts and waits, with these
failures. -/
structure Accounts (attempts waits : Nat) (failures : List ε) (result : Except (Error ε) α)
    (events : List Event) : Prop where
  trace : ∃ waited entries, p.Parting result attempts waited failures entries ∧
    waited.length = waits ∧ events = p.preamble waited ++ entries ++ coda attempts result
  warned : entriesAt .warn "attempt failed, retrying" events = waits
  exhausted : entriesAt .error "retry exhausted" events =
    (failsAs Error.isExhausted result).toNat
  cancelled : entriesAt .info "retry cancelled before attempt" events +
    entriesAt .info "retry cancelled during backoff" events =
      (failsAs Error.isInterrupted result).toNat
  aborted : entriesAt .debug "retry aborted on non-retryable error" events =
    (failsAs Error.isAborted result).toNat
  succeeded : entriesAt .debug "retry succeeded" events =
    (result.isOk && !failures.isEmpty).toNat
  failed : failuresRecorded events = (!result.isOk).toNat

variable {p}

theorem preamble_snoc (es : List ε) (e : ε) :
    p.preamble (es ++ [e]) = p.preamble es ++ [p.warning es.length e] := by
  rw [preamble, preamble, List.mapIdx_concat, List.append_assoc]

/-- Each warning is one, whatever is counted. -/
theorem countP_warnings {P : Event → Bool} {b : Bool} (h : ∀ j e, P (p.warning j e) = b)
    (es : List ε) : (es.mapIdx p.warning).countP P = if b then es.length else 0 := by
  have hmap : ∀ event ∈ es.mapIdx p.warning, P event = b := by
    intro event hevent
    obtain ⟨j, hj, rfl⟩ := List.mem_mapIdx.1 hevent
    exact h j _
  cases b with
  | false =>
    rw [if_neg Bool.false_ne_true]
    exact List.countP_eq_zero.2 fun event hevent => by simp [hmap event hevent]
  | true =>
    rw [if_pos rfl, ← List.length_mapIdx (f := p.warning) (l := es)]
    exact List.countP_eq_length.2 hmap

theorem countP_preamble {P : Event → Bool} {b : Bool} (h : ∀ j e, P (p.warning j e) = b)
    (hopened : P (.opened span) = false) (hnoted : ∀ key value, P (.noted span key value) = false)
    (es : List ε) : (p.preamble es).countP P = if b then es.length else 0 := by
  simp [preamble, countP_warnings h, hopened, hnoted]

theorem countP_coda {P : Event → Bool} (hnoted : ∀ key value, P (.noted span key value) = false)
    (hclosed : P (.closed span) = false) {b : Bool} (hfailed : ∀ text, P (.failed span text) = b)
    (attempts : Nat) (result : Except (Error ε) α) :
    (coda attempts result).countP P = (b && !result.isOk).toNat := by
  cases result <;> cases b <;> simp [coda, hnoted, hclosed, hfailed, Except.isOk, Except.toBool]

/-- The entries of a retry are its warnings and what it says of its end. -/
theorem entriesAt_trace (level : Level) (message : String) (waited : List ε) (entries : List Event)
    (attempts : Nat) (result : Except (Error ε) α) :
    entriesAt level message (p.preamble waited ++ entries ++ coda attempts result) =
      (if level == .warn && message == "attempt failed, retrying" then waited.length else 0) +
        entriesAt level message entries := by
  have hwarning : ∀ j e, (p.warning j e).isEntry level message =
      (level == .warn && message == "attempt failed, retrying") := fun j e => by
    rw [BEq.comm (a := level), BEq.comm (a := message)]
    rfl
  unfold entriesAt
  rw [List.countP_append, List.countP_append, countP_preamble hwarning rfl fun _ _ => rfl,
    countP_coda (fun _ _ => rfl) rfl (b := false) fun _ => rfl]
  simp

/-- A retry records a failure at its end, if it failed, and whatever its entries record. -/
theorem failuresRecorded_trace (waited : List ε) (entries : List Event) (attempts : Nat)
    (result : Except (Error ε) α) :
    failuresRecorded (p.preamble waited ++ entries ++ coda attempts result) =
      failuresRecorded entries + (!result.isOk).toNat := by
  unfold failuresRecorded
  rw [List.countP_append, List.countP_append,
    countP_preamble (b := false) (fun _ _ => rfl) rfl fun _ _ => rfl,
    countP_coda (fun _ _ => rfl) rfl (b := true) fun _ => rfl]
  simp

/-- The trace tells all of it. -/
theorem Parting.accounts {result : Except (Error ε) α} {attempts : Nat} {waited failures : List ε}
    {entries : List Event} (h : p.Parting result attempts waited failures entries) :
    p.Accounts attempts waited.length failures result
      (p.preamble waited ++ entries ++ coda attempts result) where
  trace := ⟨waited, entries, h, rfl, rfl⟩
  warned := by
    rw [entriesAt_trace]
    cases h <;> rfl
  exhausted := by
    rw [entriesAt_trace]
    cases h <;> rfl
  cancelled := by
    rw [entriesAt_trace, entriesAt_trace]
    cases h <;> rfl
  aborted := by
    rw [entriesAt_trace]
    cases h <;> rfl
  succeeded := by
    rw [entriesAt_trace]
    cases h with
    | succeeded hes => cases waited with
      | nil => exact absurd rfl hes
      | cons e es => rfl
    | _ => rfl
  failed := by
    rw [failuresRecorded_trace]
    cases h <;> rfl

/-! ## A turn adds what it reports -/

omit [Described ε] in
theorem maxAttempts_eq_ofNat (hmax : p.retries + 1 < UInt32.size) :
    p.config.maxAttempts = .ofNat (p.retries + 1) := by
  rw [← UInt32.toNat_inj, Config.toNat_maxAttempts, UInt32.toNat_ofNat_of_lt' hmax]
  exact Nat.min_eq_left (Nat.le_of_lt_succ hmax)

omit [Described ε] in
theorem wordText_maxAttempts (hmax : p.retries + 1 < UInt32.size) :
    wordText p.config.maxAttempts = toString (p.retries + 1) := by
  rw [maxAttempts_eq_ofNat hmax, wordText_ofNat hmax]

omit [Described ε] in
theorem frame_ordinal (j calls : Nat) : (p.frame j calls).ordinal = .ofNat (j + 1) := by
  simp [Frame.ordinal, frame, UInt32.ofNat_add]

omit [Described ε] in
theorem wordText_ordinal (hmax : p.retries + 1 < UInt32.size) {j : Nat} (hj : j ≤ p.retries)
    (calls : Nat) : wordText (p.frame j calls).ordinal = toString (j + 1) := by
  rw [frame_ordinal, wordText_ofNat (Nat.lt_of_le_of_lt (Nat.succ_le_succ hj) hmax)]

theorem closing_frame (hmax : p.retries + 1 < UInt32.size) {calls : Nat}
    (hcalls : calls ≤ p.retries + 1) (j : Nat) (result : Except (Error ε) α) :
    closing (p.frame j calls) result = coda calls result := by
  have hword := wordText_ofNat (Nat.lt_of_le_of_lt hcalls hmax)
  cases result <;> simp only [closing, coda, frame, hword]

section Steps

variable {handle : Cancellation} {w : World} (hmax : p.retries + 1 < UInt32.size)

include hmax

/-- A turn that ends the retry with these entries. -/
theorem told_conclude {es waited : List ε} {j calls : Nat} (hcalls : calls ≤ p.retries + 1)
    {result : Except (Error ε) α} {entries : List Event}
    (h : p.Parting result calls waited es entries) :
    let t : Turn (Stage σ) (Except (Error ε) α) := conclude w (p.frame j calls) entries result
    p.Told calls waited.length es (p.preamble waited ++ t.events) t.progress := by
  intro t
  have hevents : p.preamble waited ++ t.events =
      p.preamble waited ++ entries ++ coda calls result := by
    rw [List.append_assoc, ← closing_frame hmax hcalls]
    rfl
  rw [hevents]
  exact .finished h

theorem told_interrupt {es waited : List ε} {j calls : Nat} (hj : j ≤ p.retries)
    (hcalls : calls ≤ p.retries + 1) {message : String} {reason : Interruption}
    (h : p.Parting (α := α) (.error (.interrupted reason)) calls waited es
      [.info message [⟨"attempt", toString (j + 1)⟩, ⟨"reason", describe reason⟩]]) :
    let t : Turn (Stage σ) (Except (Error ε) α) := interrupt w (p.frame j calls) message reason
    p.Told calls waited.length es (p.preamble waited ++ t.events) t.progress := by
  intro t
  have ht : t = conclude w (p.frame j calls)
      [.info message [⟨"attempt", toString (j + 1)⟩, ⟨"reason", describe reason⟩]]
      (.error (.interrupted reason)) := by
    rw [← wordText_ordinal hmax hj calls]
    rfl
  rw [ht]
  exact told_conclude hmax hcalls h

/-- What follows a failure goes into the trace, with the wait that is asked for. -/
theorem told_afterFailure (handle : Cancellation) (w : World) {es : List ε}
    (hes : es.length ≤ p.retries) (e : ε) :
    let t : Turn (Stage σ) (Except (Error ε) α) := afterFailure p.config.coerced handle p.worth
      p.samples (p.frame es.length (es.length + 1)) e w
    p.Told (es.length + 1) (es.length + (leadsToWait t.progress).toNat) (es ++ [e])
      (p.preamble es ++ t.events) t.progress := by
  have hcalls : es.length + 1 ≤ p.retries + 1 := Nat.succ_le_succ hes
  have hlast := attempt_eq_iff hes (es.length + 1)
  unfold afterFailure
  rw [Config.coerced_maxRetries, Config.coerced_maxAttempts, wordText_ordinal hmax hes,
    wordText_maxAttempts hmax, toNat_attempt hes]
  by_cases hn : es.length = p.retries
  · rw [if_pos (hlast.2 hn), frame_ordinal, maxAttempts_eq_ofNat hmax]
    exact told_conclude hmax hcalls (.exhausted hn)
  · rw [if_neg (mt hlast.1 hn)]
    have hlt := Nat.lt_of_le_of_ne hes hn
    cases hworth : p.worth e with
    | false => exact told_conclude hmax hcalls (.aborted hlt hworth)
    | true =>
      have hdelay : (p.frame es.length (es.length + 1)).backoff.jittered (p.samples es.length) =
          p.delay es.length := rfl
      simp only [Bool.not_true, Bool.false_eq_true, if_false, hdelay]
      cases handle.sleep w.tokens w.now (p.delay es.length) with
      | ok wait =>
        have hpausing : p.Told _ _ (es ++ [e]) (p.preamble (es ++ [e]))
            (.running (.pausing (p.frame es.length (es.length + 1)) wait) :
              Progress (Stage σ) (Except (Error ε) α)) := .pausing hlt hworth rfl
        rw [preamble_snoc] at hpausing
        exact hpausing
      | error reason =>
        have hparting : p.Parting (.error (.interrupted reason) : Except (Error ε) α)
            (es.length + 1) (es ++ [e]) (es ++ [e]) _ := .duringWait hlt hworth
        have hended := told_interrupt (σ := σ) (w := w) hmax hes hcalls hparting
        dsimp only at hended
        rw [preamble_snoc, List.append_assoc, List.length_append] at hended
        exact hended

/-- What follows an attempt goes into the trace, with the failure it ended in, if it did. -/
theorem told_afterAttempt (handle : Cancellation) (w : World) {es : List ε}
    (hes : es.length ≤ p.retries) (result : Except ε α) :
    let t : Turn (Stage σ) (Except (Error ε) α) := afterAttempt p.config.coerced handle p.worth
      p.samples (p.frame es.length (es.length + 1)) result w
    p.Told (es.length + 1) (es.length + (leadsToWait t.progress).toNat) (es ++ failureOf result)
      (p.preamble es ++ t.events) t.progress := by
  cases result with
  | error e => exact told_afterFailure hmax handle w hes e
  | ok a =>
    have hcalls : es.length + 1 ≤ p.retries + 1 := Nat.succ_le_succ hes
    have hfirst : (p.frame es.length (es.length + 1)).attempt = 0 ↔ es = [] := by
      rw [← UInt32.toNat_inj, toNat_attempt hes]
      exact List.length_eq_zero_iff
    simp only [afterAttempt, hfirst, wordText_ordinal hmax hes, failureOf, List.append_nil]
    by_cases hnil : es = []
    · rw [if_pos hnil]
      subst hnil
      exact told_conclude hmax hcalls .atOnce
    · rw [if_neg hnil]
      exact told_conclude hmax hcalls (.succeeded hnil)

/-- A turn adds what it reports to the trace, and what it does to what is counted. -/
theorem Told.turn (handle : Cancellation) (op : Nat → Activity σ (Except ε α))
    {begun waits : Nat} {es : List ε} {events : List Event} {s : Stage σ}
    {progress : Progress (Stage σ) (Except (Error ε) α)} (h : p.Told begun waits es events progress)
    (hs : progress.ready? w = some s) :
    p.Told (begun + (p.begins handle op (s, w)).toNat)
      (waits + (p.asksToWait handle op (s, w)).toNat) (es ++ failuresIn op (s, w))
      (events ++ p.ownEvents handle op (s, w)) ((p.trying handle op).turn s w).progress := by
  cases h with
  | opening =>
    cases hs
    have hstart : p.ownEvents handle op (.opening, w) = p.preamble [] := by
      rw [preamble, ← wordText_maxAttempts hmax]
      rfl
    have hchecking : p.Told 0 0 [] (p.preamble [])
        (.running (.checking (p.frame 0 0)) : Progress (Stage σ) (Except (Error ε) α)) :=
      @Told.checking σ ε α _ p [] (Nat.zero_le _)
    rw [hstart]
    exact hchecking
  | checking hes =>
    cases hs
    unfold begins asksToWait failuresIn ownEvents attempted? trying execute
    dsimp only
    cases handle.check w.tokens w.now with
    | none =>
      have hcalling : p.Told (es.length + 1) es.length es (p.preamble es)
          (.running (.calling (p.frame es.length (es.length + 1)) (op es.length).start) :
            Progress (Stage σ) (Except (Error ε) α)) := .calling hes rfl
      rw [List.append_nil, List.drop_nil, List.append_nil]
      exact hcalling
    | some reason =>
      have hparting : p.Parting (.error (.interrupted reason) : Except (Error ε) α) es.length es es
          _ := .beforeAttempt hes
      rw [List.append_nil]
      exact told_interrupt hmax hes (Nat.le_succ_of_le hes) hparting
  | @calling es s' _ hes hstate =>
    obtain rfl := Option.some.inj ((Progress.state?_of_ready hs).symm.trans hstate)
    unfold begins asksToWait failuresIn ownEvents attempted? trying execute
    dsimp only
    rw [show (p.frame es.length (es.length + 1)).calls - 1 = es.length from rfl]
    generalize (op es.length).turn s' w = inner
    obtain ⟨u, events, progress⟩ := inner
    cases progress with
    | running s'' =>
      have hcalling : p.Told (es.length + 1) es.length es (p.preamble es)
          (.running (.calling (p.frame es.length (es.length + 1)) s'') :
            Progress (Stage σ) (Except (Error ε) α)) := .calling hes rfl
      simpa [Turn.inside, leadsToWait] using hcalling
    | waiting s'' wait =>
      have hcalling : p.Told (es.length + 1) es.length es (p.preamble es)
          (.waiting (.calling (p.frame es.length (es.length + 1)) s'') wait :
            Progress (Stage σ) (Except (Error ε) α)) := .calling hes rfl
      simpa [Turn.inside, leadsToWait] using hcalling
    | finished result =>
      simpa [Turn.inside] using told_afterAttempt (σ := σ) hmax handle u hes result
  | @pausing es e wait _ hes hworth hstate =>
    obtain rfl := Option.some.inj ((Progress.state?_of_ready hs).symm.trans hstate)
    unfold begins asksToWait failuresIn ownEvents attempted? trying execute
    dsimp only
    cases wait.poll w.tokens w.now with
    | pending =>
      have hpausing : p.Told (es.length + 1) (es.length + 1) (es ++ [e]) (p.preamble (es ++ [e]))
          (.waiting (.pausing (p.frame es.length (es.length + 1)) wait) wait :
            Progress (Stage σ) (Except (Error ε) α)) := .pausing hes hworth rfl
      simpa using hpausing
    | «over» =>
      have hlength : (es ++ [e]).length = es.length + 1 := List.length_append
      have hchecking : p.Told _ _ (es ++ [e]) (p.preamble (es ++ [e])) (.running (.checking _) :
          Progress (Stage σ) (Except (Error ε) α)) := .checking (hlength ▸ hes)
      rw [hlength] at hchecking
      simpa [frame_grow] using hchecking
    | interrupted reason =>
      have hle := Nat.le_of_lt hes
      have hparting : p.Parting (.error (.interrupted reason) : Except (Error ε) α)
          (es.length + 1) (es ++ [e]) (es ++ [e]) _ := .duringWait hes hworth
      simpa using told_interrupt (σ := σ) (w := w) hmax hle (Nat.succ_le_succ hle) hparting
  | finished => cases hs

end Steps

/-! ## Along a course -/

section Course

variable {handle : Cancellation} {op : Nat → Activity σ (Except ε α)} {w₀ w : World}
  {turns : List (Stage σ × World)}

/-- On every course the report tells of the attempts begun, the waits and the failures so far. -/
theorem told_of_course (hmax : p.retries + 1 < UInt32.size)
    {progress : Progress (Stage σ) (Except (Error ε) α)}
    (h : (p.trying handle op).Course w₀ turns progress w) :
    p.Told (turns.countP (p.begins handle op)) (turns.countP (p.asksToWait handle op))
      (turns.flatMap (failuresIn op)) (turns.flatMap (p.ownEvents handle op)) progress := by
  induction h with
  | start => exact .opening
  | turn _ hs ih =>
    have hturn := ih.turn hmax handle op hs
    rw [countP_snoc, countP_snoc, List.flatMap_append, List.flatMap_singleton, List.flatMap_append,
      List.flatMap_singleton]
    exact hturn
  | others _ _ _ ih => exact ih

end Course

/-! ## Operations of the outside world -/

section Operations

variable {handle : Cancellation}

/-- They report nothing themselves. -/
theorem ownEvents_operations (t : Trying ε α × World) :
    p.ownEvents handle (operations p.outcomes) t = ((p.under handle).turn t.1 t.2).events := by
  have hsilent : ∀ (j : Nat) s w, ((operations p.outcomes j).turn s w).events = [] := by
    intro j s w
    unfold operations Activity.call
    dsimp only
    split
    · split <;> rfl
    · split <;> rfl
  unfold ownEvents attempted?
  split <;> simp [hsilent, trying_operations]

/-- Whether an attempt has begun whose call is still to come. -/
def awaitsCall : Trying ε α → Bool
  | .calling _ none => true
  | _ => false

/-- Whether the next turn of a retry calls the operation. -/
def callsNext (progress : Progress (Trying ε α) (Except (Error ε) α)) : Bool :=
  progress.state?.any awaitsCall

theorem callsNext_afterAttempt (p : Plan ε α) (handle : Cancellation) (f : Frame)
    (result : Except ε α) (w : World) :
    callsNext (afterAttempt p.config.coerced handle p.worth p.samples f result w).progress =
      false := by
  cases result with
  | ok a => rfl
  | error e =>
    rw [afterAttempt, afterFailure_progress]
    by_cases hlast : f.attempt = p.config.coerced.maxRetries
    · rw [if_pos hlast]
      rfl
    · rw [if_neg hlast]
      cases hworth : p.worth e with
      | false => rfl
      | true => cases handle.check w.tokens w.now <;> rfl

/-- An attempt that has begun calls the operation in the next turn. -/
theorem callsNext_turn (p : Plan ε α) (handle : Cancellation)
    {progress : Progress (Trying ε α) (Except (Error ε) α)} {s : Trying ε α} {w : World}
    (hs : progress.ready? w = some s) :
    ((p.under handle).calls (s, w)).toNat + (callsNext ((p.under handle).turn s w).progress).toNat =
      (p.begins handle (operations p.outcomes) (s, w)).toNat + (callsNext progress).toNat := by
  have hbefore : callsNext progress = awaitsCall s := by
    rw [callsNext, Progress.state?_of_ready hs, Option.any_some]
  have hrunning : ∀ s : Trying ε α, callsNext (.running s) = awaitsCall s := fun _ => rfl
  have hwaiting : ∀ (s : Trying ε α) wait, callsNext (.waiting s wait) = awaitsCall s :=
    fun _ _ => rfl
  have hfinished : ∀ result : Except (Error ε) α, callsNext (.finished result) = false :=
    fun _ => rfl
  rw [hbefore]
  unfold begins Activity.calls
  rw [trying_operations]
  cases s with
  | opening => simp [under, execute, hrunning, awaitsCall]
  | checking f =>
    cases hcheck : handle.check w.tokens w.now <;>
      simp [under, execute, hcheck, interrupt, conclude, hrunning, hfinished, awaitsCall,
        operations, Activity.call]
  | calling f s =>
    have hturn : (p.under handle).turn (.calling f s) w =
        ((operations p.outcomes (f.calls - 1)).turn s w).inside (.calling f)
          (afterAttempt p.config.coerced handle p.worth p.samples f) := rfl
    have hafter := callsNext_afterAttempt p handle f
    dsimp only
    rw [hturn]
    unfold operations Activity.call Turn.inside
    cases s with
    | none =>
      cases hd : (p.outcomes (f.calls - 1)).delay? <;>
        simp [hd, hafter, afterAttempt_world, World.called, hrunning, awaitsCall]
    | some s =>
      obtain ⟨wait, result⟩ := s
      cases hpoll : wait.poll w.tokens w.now <;>
        simp [hpoll, hafter, afterAttempt_world, hwaiting, awaitsCall]
  | pausing f wait =>
    cases hpoll : wait.poll w.tokens w.now <;>
      simp [under, execute, hpoll, interrupt, conclude, hrunning, hwaiting, hfinished,
        awaitsCall]

theorem attempts_of_course {w₀ w : World} {turns : List (Trying ε α × World)}
    {progress : Progress (Trying ε α) (Except (Error ε) α)}
    (h : (p.under handle).Course w₀ turns progress w) :
    turns.countP (p.begins handle (operations p.outcomes)) =
      ((p.under handle).callTimes turns).length + (callsNext progress).toNat := by
  induction h with
  | start => rfl
  | @turn turns _ s w _ hs ih =>
    have hturn := callsNext_turn p handle hs
    have hcalls : (if (p.under handle).calls (s, w) then [w.now] else []).length =
        ((p.under handle).calls (s, w)).toNat := by
      cases (p.under handle).calls (s, w) <;> rfl
    rw [Activity.callTimes_append, List.length_append, hcalls, countP_snoc, ih]
    omega
  | others _ _ _ ih => exact ih

end Operations

/-! ## The whole run -/

/-- A retry that has come to its end has accounted for its run. -/
theorem accounts_of_course (hmax : p.retries + 1 < UInt32.size) {handle : Cancellation}
    {op : Nat → Activity σ (Except ε α)} {w₀ w : World} {turns : List (Stage σ × World)}
    {result : Except (Error ε) α} (h : (p.trying handle op).Course w₀ turns (.finished result) w) :
    p.Accounts (turns.countP (p.begins handle op)) (turns.countP (p.asksToWait handle op))
      (turns.flatMap (failuresIn op)) result (turns.flatMap (p.ownEvents handle op)) := by
  have htold := told_of_course hmax h
  generalize turns.countP (p.begins handle op) = attempts at htold
  generalize turns.countP (p.asksToWait handle op) = waits at htold
  generalize turns.flatMap (failuresIn op) = failures at htold
  generalize turns.flatMap (p.ownEvents handle op) = events at htold
  cases htold with
  | calling _ hs | pausing _ _ hs => cases hs
  | finished hparting => exact hparting.accounts

/-- Whatever others do and whatever becomes of the handle, the trace of a retry that has finished
accounts for the run, for any operation as far as the retry's own events go. For operations with
outcomes listed in advance these are all events, and the attempts are the calls. Alone such a retry
does finish. -/
theorem trace_accounts_for_run (p : Plan ε α) (hmax : p.retries + 1 < UInt32.size)
    (handle : Cancellation) (w₀ : World) :
    (∀ {σ : Type} (op : Nat → Activity σ (Except ε α)) turns result w,
      (p.trying handle op).Course w₀ turns (.finished result) w →
        p.Accounts (turns.countP (p.begins handle op)) (turns.countP (p.asksToWait handle op))
          (turns.flatMap (failuresIn op)) result (turns.flatMap (p.ownEvents handle op))) ∧
    (∀ turns result w, (p.under handle).Course w₀ turns (.finished result) w →
      p.Accounts ((p.under handle).callTimes turns).length
        (turns.countP (p.asksToWait handle (operations p.outcomes)))
        (turns.flatMap (failuresIn (operations p.outcomes))) result
        ((p.under handle).reports turns)) ∧
    (w₀.Steady → ∃ fuel₀ turns result w events,
      (p.under handle).Course w₀ turns (.finished result) w ∧
        ∀ fuel ≥ fuel₀, Session.run fuel (.alone (p.under handle) w₀) =
          ⟨w, [⟨p.under handle, .finished result⟩], events⟩) := by
  refine ⟨fun op turns result w h => accounts_of_course hmax h, fun turns result w h => ?_,
    fun hsteady => ?_⟩
  · have hattempts := attempts_of_course h
    have hreports : turns.flatMap (p.ownEvents handle (operations p.outcomes)) =
        (p.under handle).reports turns :=
      congrArg (turns.flatMap ·) (funext ownEvents_operations)
    have haccounts := accounts_of_course hmax h
    rwa [hattempts, hreports] at haccounts
  · have hfree : Cancellation.NeverEnds { token := ⟨[]⟩ } w₀ := ⟨rfl, rfl, by simp⟩
    obtain ⟨fuel₀, turns, result, w, events, hcourse, -, hrun⟩ :=
      Activity.ends_alone (p.kept_alone handle) (fun h => h.1) length_turns_le ⟨hsteady, hfree⟩
    exact ⟨fuel₀, turns, result, w, events, hcourse, hrun⟩

/-- Both attempts fail. -/
def failsTwice : Plan IoError Nat where
  config := { maxRetries := 1, jitter := 0 }
  worth _ := true
  samples _ := 0
  outcomes _ := ⟨none, .error ⟨.timedOut, none⟩⟩

/-- Two failures with a wait between them are one warning and the end. -/
theorem trace_accounts_for_two_failures :
    let q := failsTwice.under { token := ⟨[0]⟩ }
    failsTwice.retries + 1 < UInt32.size ∧ ∃ turns w,
      q.Course {} turns (.finished (.error (.exhausted 2 2 ⟨.timedOut, none⟩))) w ∧
      failsTwice.Accounts 2 1 [⟨.timedOut, none⟩, ⟨.timedOut, none⟩]
        (.error (.exhausted 2 2 ⟨.timedOut, none⟩) : Except (Error IoError) Nat)
        (q.reports turns) := by
  intro q
  have hpending : (failsTwice.pause { token := ⟨[0]⟩ } 0 0).poll {} 0 = .pending := by
    decide +kernel
  have hover : (failsTwice.pause { token := ⟨[0]⟩ } 0 0).poll {} (failsTwice.startAt 0 1) =
      .over := by
    decide +kernel
  have hstart : q.Course {} _ (.running (.checking (failsTwice.frame 0 0))) {} :=
    Activity.Course.start.turn rfl
  have hfailed : q.Course {} _ (.running (.pausing (failsTwice.frame 0 1)
      (failsTwice.pause { token := ⟨[0]⟩ } 0 0))) { calls := [0] } := (hstart.turn rfl).turn rfl
  have hwaiting : q.Course {} _ (.waiting (.pausing (failsTwice.frame 0 1)
      (failsTwice.pause { token := ⟨[0]⟩ } 0 0)) (failsTwice.pause { token := ⟨[0]⟩ } 0 0))
      { calls := [0] } :=
    hfailed.turn_of_upshot rfl ((turn_pausing 0 _).trans (by rw [hpending]))
  have hslept : q.Course {} _ (.waiting _ _) { now := failsTwice.startAt 0 1, calls := [0] } :=
    hwaiting.others ⟨Nat.zero_le _, fun _ h => h⟩ (Nat.le_max_right _ _)
  have hagain : q.Course {} _ (.running (.checking (failsTwice.frame 1 1)))
      { now := failsTwice.startAt 0 1, calls := [0] } :=
    hslept.turn_of_upshot (Progress.ready?_of_over hover)
      ((turn_pausing 0 _).trans (by rw [hover]))
  have hcourse : q.Course {} _ (.finished (.error (.exhausted 2 2 ⟨.timedOut, none⟩))) _ :=
    (hagain.turn rfl).turn rfl
  have hmax : failsTwice.retries + 1 < UInt32.size := by decide
  exact ⟨hmax, _, _, hcourse, (trace_accounts_for_run failsTwice hmax _ _).2.1 _ _ _ hcourse⟩

end Plan

end Retry

end Resilience
