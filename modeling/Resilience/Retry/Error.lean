import Resilience.Failure.Interruption

/-!
# How a retried operation fails
-/

namespace Resilience.Retry

/-- How an operation that is tried again fails : the work was interrupted before an attempt or
between two, every attempt failed, or a failure was not worth another attempt and is passed on
unchanged. -/
inductive Error (ε : Type) where
  | interrupted (reason : Interruption)
  | exhausted (attempts maxAttempts : UInt32) (error : ε)
  | aborted (error : ε)
deriving DecidableEq, Repr

namespace Error

variable {ε : Type}

/-- Whether the retry was given up from outside. -/
def isInterrupted : Error ε → Bool
  | interrupted _ => true
  | _ => false

/-- Whether no attempt was left. -/
def isExhausted : Error ε → Bool
  | exhausted .. => true
  | _ => false

/-- Whether a failure was not worth another attempt. -/
def isAborted : Error ε → Bool
  | aborted _ => true
  | _ => false

/-- The operation's own failure, if it came to that. -/
def inner? : Error ε → Option ε
  | interrupted _ => none
  | exhausted _ _ error | aborted error => some error

/-- Why the work was interrupted, if it was. -/
def interruption? : Error ε → Option Interruption
  | interrupted reason => some reason
  | _ => none

/-- The text of an exhausted retry whose last failure reads `text`. -/
def exhaustedText (attempts maxAttempts : UInt32) (text : String) : String :=
  "retry exhausted after " ++ toString attempts.toNat ++ "/" ++ toString maxAttempts.toNat ++
    " attempts: " ++ text

instance [Described ε] : Described (Error ε) where
  describe
    | interrupted reason => describe reason
    | exhausted attempts maxAttempts error =>
      exhaustedText attempts maxAttempts (describe error)
    | aborted error => describe error

end Error

end Resilience.Retry
