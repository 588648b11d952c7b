import Resilience.Failure.Io
import Resilience.Service.Error

/-!
# Chains of failures

A failure may have been caused by another, and that one by a third. `Failure.links` lists a failure
and all that is behind it, outermost first, each with what there is to be seen of it : its text,
its kind if it is one of input and output, and whether it is a time limit that ran out.

An input or output failure around a payload shows the payload's text and passes the payload over :
what is behind it is what is behind the payload. The same holds of the wrappers that pass a failure
on unchanged, and these are no failures of input and output themselves.
-/

namespace Resilience

/-- What a failed piece of work comes to, with whatever caused it. -/
inductive Failure where
  /-- An opaque failure, known by its text alone. -/
  | message (text : String) (cause : Option Failure)
  /-- A failure of input or output, perhaps around another one. -/
  | io (kind : IoKind) (payload : Option Failure)
  /-- A time limit that ran out. -/
  | elapsed
  | interrupted (reason : Interruption)
  | request (error : Service.Error)
  | limited (error : Rate.Error Failure)
  | retried (error : Retry.Error Failure)

/-- What there is to be seen of one failure in a chain. -/
structure Link where
  text : String
  kind? : Option IoKind := none
  isElapsed : Bool := false
deriving DecidableEq, Repr, Inhabited

namespace Failure

/-- The text of a time limit that ran out. -/
def elapsedText : String := "deadline has elapsed"

/-- A failure's own text. -/
def text : Failure → String
  | message text _ => text
  | io _ (some payload) => payload.text
  | io kind none => kind.text
  | elapsed => elapsedText
  | interrupted reason => describe reason
  | request error => describe error
  | limited .exceeded => Rate.Error.exceededText
  | limited (.interrupted reason) => describe reason
  | limited (.operation error) => error.text
  | retried (.interrupted reason) => describe reason
  | retried (.exhausted attempts maxAttempts error) =>
    Retry.Error.exhaustedText attempts maxAttempts error.text
  | retried (.aborted error) => error.text
termination_by structural f => f

instance : Described Failure where
  describe := text

/-- The failure's kind, if it is one of input and output. -/
def kind? : Failure → Option IoKind
  | io kind _ => some kind
  | _ => none

/-- Whether the failure is a time limit that ran out. -/
def isElapsed : Failure → Bool
  | elapsed => true
  | _ => false

/-- What is seen of the failure itself. -/
def link (f : Failure) : Link := ⟨f.text, f.kind?, f.isElapsed⟩

/-- What is behind a failure, outermost first. -/
def behind : Failure → List Link
  | message _ (some cause) => cause.link :: cause.behind
  | io _ (some payload) => payload.behind
  | request (.interrupted reason) => [{ text := describe reason }]
  | limited (.operation error) => error.behind
  | retried (.exhausted _ _ error) => error.link :: error.behind
  | retried (.aborted error) => error.behind
  | _ => []
termination_by structural f => f

/-- A failure and what is behind it, outermost first. -/
def links (f : Failure) : List Link := f.link :: f.behind

/-- A failed operation on the outside world, alone. -/
def ofIo (e : IoError) : Failure := io e.kind (e.text?.map fun text => message text none)

end Failure

/-! ## Values that are failures -/

/-- Values that are failures, with whatever is behind them. -/
class Chained (ε : Type) where
  toFailure : ε → Failure

export Chained (toFailure)

variable {ε : Type}

instance : Chained Failure := ⟨id⟩

instance : Chained IoError := ⟨Failure.ofIo⟩

instance [Chained ε] : Chained (Rate.Error ε) where
  toFailure
    | .exceeded => .limited .exceeded
    | .interrupted reason => .limited (.interrupted reason)
    | .operation error => .limited (.operation (toFailure error))

instance [Chained ε] : Chained (Retry.Error ε) where
  toFailure
    | .interrupted reason => .retried (.interrupted reason)
    | .exhausted attempts maxAttempts error =>
      .retried (.exhausted attempts maxAttempts (toFailure error))
    | .aborted error => .retried (.aborted (toFailure error))

end Resilience
