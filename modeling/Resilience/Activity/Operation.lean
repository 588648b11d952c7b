import Resilience.Activity.Basic

/-!
# Operations on the outside world

What a component runs on behalf of its caller : an operation that is called, takes its time and
then succeeds or fails. The world records the instant of every call.
-/

namespace Resilience

/-- What comes of a call. -/
structure Outcome (ε α : Type) where
  /-- How long the operation sleeps before it answers, if it sleeps at all. -/
  delay? : Option Nat := none
  result : Except ε α

namespace Activity

variable {ε α : Type}

/-- A call of an operation whose outcome may depend on the world it is called in. -/
def call (outcome : World → Outcome ε α) : Activity (Option (Wait × Except ε α)) (Except ε α) where
  start := none
  turn
    | none, w =>
      let o := outcome w
      match o.delay? with
      | none => ⟨w.called, [], .finished o.result⟩
      | some d => ⟨w.called, [], .running (some (.pause w.now d, o.result))⟩
    | some (wait, result), w =>
      match wait.poll w.tokens w.now with
      | .pending => ⟨w, [], .waiting (some (wait, result)) wait⟩
      | _ => ⟨w, [], .finished result⟩

end Activity

end Resilience
