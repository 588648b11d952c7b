import Resilience.Failure.Transient
import Resilience.Activity.Basic
import Resilience.Retry.Backoff
import Resilience.Retry.Error

/-!
# Trying again

`Retry.execute` calls an operation until it succeeds, until its failure is not worth another
attempt, or until the attempts are used up, with a growing wait after each failure. Before every
attempt and during every wait the handle is heeded ; an attempt that runs is never interrupted.

Attempts are numbered from zero by 32-bit words, and the waits are drawn from a sequence of samples
between zero and one.
-/

namespace Resilience.Retry

open Telemetry (Event)

variable {σ ε α : Type}

/-- The span of a retry. -/
def span : String := "retry.execute"

/-- Where a retry stands between two turns. -/
structure Frame where
  /-- The number of the attempt, counted from zero. -/
  attempt : UInt32 := 0
  /-- How often the operation has been called. -/
  calls : Nat := 0
  backoff : Backoff
deriving Repr, Inhabited

/-- The number of the attempt as it is reported, counted from one. -/
def Frame.ordinal (f : Frame) : UInt32 := f.attempt + 1

/-- How far a retry has come. -/
inductive Stage (σ : Type) where
  | opening
  /-- About to begin an attempt. -/
  | checking (frame : Frame)
  | calling (frame : Frame) (state : σ)
  | pausing (frame : Frame) (wait : Wait)
deriving Repr, Inhabited

/-- A number of 32 bits as it is reported. -/
def wordText (n : UInt32) : String := toString n.toNat

/-- The reports that end a retry. -/
def closing [Described ε] (f : Frame) (result : Except (Error ε) α) : List Event :=
  [.noted span "retry.attempts" (wordText (UInt32.ofNat f.calls))] ++
    (match result with
      | .ok _ => []
      | .error e => [.failed span (describe e)]) ++
    [.closed span]

/-- The turn that ends a retry after the reports `events`. -/
def conclude [Described ε] (w : World) (f : Frame) (events : List Event)
    (result : Except (Error ε) α) : Turn (Stage σ) (Except (Error ε) α) :=
  ⟨w, events ++ closing f result, .finished result⟩

/-- The turn that ends a retry because the handle has ended. -/
def interrupt [Described ε] (w : World) (f : Frame) (message : String) (reason : Interruption) :
    Turn (Stage σ) (Except (Error ε) α) :=
  conclude w f
    [.info message [⟨"attempt", wordText f.ordinal⟩, ⟨"reason", describe reason⟩]]
    (.error (.interrupted reason))

/-- What follows an attempt that failed with `e` : the end of the retry, or a wait. -/
def afterFailure [Described ε] (c : Config) (handle : Cancellation) (worth : ε → Bool)
    (samples : Nat → Float) (f : Frame) (e : ε) (w : World) :
    Turn (Stage σ) (Except (Error ε) α) :=
  if f.attempt = c.maxRetries then
    conclude w f
      [.error "retry exhausted"
        [⟨"attempts", wordText f.ordinal⟩, ⟨"max_attempts", wordText c.maxAttempts⟩,
         ⟨"error", describe e⟩]]
      (.error (.exhausted f.ordinal c.maxAttempts e))
  else if !worth e then
    conclude w f
      [.debug "retry aborted on non-retryable error"
        [⟨"attempt", wordText f.ordinal⟩, ⟨"error", describe e⟩]]
      (.error (.aborted e))
  else
    let delay := f.backoff.jittered (samples f.attempt.toNat)
    let warning := Event.warn "attempt failed, retrying"
      [⟨"attempt", wordText f.ordinal⟩, ⟨"max_attempts", wordText c.maxAttempts⟩,
       ⟨"delay_ms", toString (Time.toMillis delay)⟩, ⟨"error", describe e⟩]
    match handle.sleep w.tokens w.now delay with
    | .ok wait => ⟨w, [warning], .running (.pausing f wait)⟩
    | .error reason =>
      let t := interrupt w f "retry cancelled during backoff" reason
      { t with events := warning :: t.events }

/-- What follows an attempt. -/
def afterAttempt [Described ε] (c : Config) (handle : Cancellation) (worth : ε → Bool)
    (samples : Nat → Float) (f : Frame) (result : Except ε α) (w : World) :
    Turn (Stage σ) (Except (Error ε) α) :=
  match result with
  | .ok a =>
    conclude w f
      (if f.attempt = 0 then []
        else [.debug "retry succeeded" [⟨"attempt", wordText f.ordinal⟩]])
      (.ok a)
  | .error e => afterFailure c handle worth samples f e w

/-- Calls `op` up to the configured number of times, the `i`-th time as `op i`, as long as its
failures are `worth` another attempt. The values of the configuration are coerced. -/
def execute [Described ε] (c : Config) (handle : Cancellation) (worth : ε → Bool)
    (samples : Nat → Float) (op : Nat → Activity σ (Except ε α)) :
    Activity (Stage σ) (Except (Error ε) α) where
  start := .opening
  turn
    | .opening, w =>
      ⟨w, [.opened span, .noted span "retry.max_attempts" (wordText c.coerced.maxAttempts)],
        .running (.checking { backoff := .ofConfig c.coerced })⟩
    | .checking f, w =>
      match handle.check w.tokens w.now with
      | some reason => interrupt w f "retry cancelled before attempt" reason
      | none =>
        ⟨w, [], .running (.calling { f with calls := f.calls + 1 } (op f.calls).start)⟩
    | .calling f s, w =>
      ((op (f.calls - 1)).turn s w).inside (.calling f) <|
        afterAttempt c.coerced handle worth samples f
    | .pausing f wait, w =>
      match wait.poll w.tokens w.now with
      | .pending => ⟨w, [], .waiting (.pausing f wait) wait⟩
      | .interrupted reason => interrupt w f "retry cancelled during backoff" reason
      | .over =>
        ⟨w, [], .running (.checking
          { f with attempt := f.attempt + 1, backoff := f.backoff.grow })⟩

/-- `execute` for every failure alike. -/
def run [Described ε] (c : Config) (handle : Cancellation) (samples : Nat → Float)
    (op : Nat → Activity σ (Except ε α)) : Activity (Stage σ) (Except (Error ε) α) :=
  execute c handle (fun _ => true) samples op

/-- `execute` for failures that are transient. -/
def runClassified [Described ε] [Chained ε] (c : Config) (handle : Cancellation)
    (samples : Nat → Float) (op : Nat → Activity σ (Except ε α)) :
    Activity (Stage σ) (Except (Error ε) α) :=
  execute c handle isRetryable samples op

end Resilience.Retry
