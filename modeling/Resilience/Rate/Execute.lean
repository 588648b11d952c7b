import Resilience.Activity.Basic
import Resilience.Rate.Error

/-!
# Operations behind a limiter

`Rate.execute` runs an operation if there is a token for it and refuses it otherwise.
`Rate.executeWithWait` sleeps from one try to the next until there is a token or the handle ends.
An operation's own result is passed on unchanged. Without a limiter the operation is run at once.
-/

namespace Resilience.Rate

open Telemetry (Event)

variable {σ ε α : Type}

/-- The span of an operation that is refused unless there is a token at once. -/
def executeSpan : String := "rate.execute"

/-- The span of an operation that waits for a token. -/
def waitSpan : String := "rate.execute_with_wait"

/-- How an operation ended, as it is reported. -/
def outcomeText : Except ε α → String
  | .ok _ => "ok"
  | .error _ => "error"

/-- The end of a limited operation, reported on `span` if there is a limiter. -/
def finish (span : String) (result : Except ε α) (w : World) : List Event :=
  if w.limiter?.isSome then
    [.noted span "rate.outcome" (outcomeText result), .closed span]
  else
    []

/-- A turn of the limited operation itself. -/
def operationTurn {τ : Type} (span : String) (op : Activity σ (Except ε α)) (wrap : σ → τ) (s : σ)
    (w : World) : Turn τ (Except (Error ε) α) :=
  (op.turn s w).inside wrap fun result w =>
    ⟨w, finish span result w, .finished (result.mapError .operation)⟩

/-- The reports of an operation that was refused. -/
def refusal (c : Config) : List Event :=
  [.opened executeSpan,
   .warn "rate limit exceeded" c.limitFields,
   .noted executeSpan "rate.allowed" "false",
   .failed executeSpan Error.exceededText,
   .closed executeSpan]

/-- Runs the operation if there is a token. -/
def execute (op : Activity σ (Except ε α)) : Activity (Option σ) (Except (Error ε) α) where
  start := none
  turn
    | none, w =>
      match w.limiter? with
      | none => ⟨w, [], .running (some op.start)⟩
      | some l =>
        let (allowed, w) := w.allow
        if allowed then
          ⟨w, [.opened executeSpan, .noted executeSpan "rate.allowed" "true"],
            .running (some op.start)⟩
        else
          ⟨w, refusal l.config, .finished (.error .exceeded)⟩
    | some s, w => operationTurn executeSpan op some s w

/-! ## Waiting for a token -/

/-- How far an operation that waits for a token has come. -/
inductive Waiting (σ : Type) where
  | opening
  /-- About to look for a token, since the first try at an instant. -/
  | trying (since : Nat)
  | sleeping (since : Nat) (wait : Wait)
  | running (state : σ)
deriving Repr, Inhabited

/-- Whole milliseconds since an instant, as they are reported. -/
def waitedText (since : Nat) (w : World) : String := toString (Time.toMillis (w.now - since))

/-- The turn that gives up because the handle has ended. -/
def giveUp (since : Nat) (reason : Interruption) (w : World) :
    Turn (Waiting σ) (Except (Error ε) α) :=
  ⟨w,
    [.info "rate limit wait interrupted"
      [⟨"reason", describe reason⟩, ⟨"waited_ms", waitedText since w⟩],
     .failed waitSpan (describe reason),
     .closed waitSpan],
    .finished (.error (.interrupted reason))⟩

/-- The turn that looks at the handle, then for a token, and goes on to sleep for the poll
interval if there is none. -/
def tryToken (handle : Cancellation) (op : Activity σ (Except ε α)) (since : Nat) (w : World) :
    Turn (Waiting σ) (Except (Error ε) α) :=
  match handle.check w.tokens w.now with
  | some reason => giveUp since reason w
  | none =>
    let (allowed, w) := w.allow
    if allowed then
      ⟨w, [.noted waitSpan "rate.waited_ms" (waitedText since w)], .running (.running op.start)⟩
    else
      match handle.sleep w.tokens w.now ((w.limiter?.map (·.config.pollInterval)).getD 0) with
      | .error reason => giveUp since reason w
      | .ok wait => ⟨w, [], .running (.sleeping since wait)⟩

/-- Runs the operation once there is a token. -/
def executeWithWait (handle : Cancellation) (op : Activity σ (Except ε α)) :
    Activity (Waiting σ) (Except (Error ε) α) where
  start := .opening
  turn
    | .opening, w =>
      if w.limiter?.isSome then ⟨w, [.opened waitSpan], .running (.trying w.now)⟩
      else ⟨w, [], .running (.running op.start)⟩
    | .trying since, w => tryToken handle op since w
    | .sleeping since wait, w =>
      match wait.poll w.tokens w.now with
      | .pending => ⟨w, [], .waiting (.sleeping since wait) wait⟩
      | .interrupted reason => giveUp since reason w
      | .over => ⟨w, [], .running (.trying since)⟩
    | .running s, w => operationTurn waitSpan op .running s w

end Resilience.Rate
