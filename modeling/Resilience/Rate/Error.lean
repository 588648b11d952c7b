import Resilience.Failure.Interruption

/-!
# How a limited operation fails
-/

namespace Resilience.Rate

/-- How an operation behind a limiter fails : refused for want of a token, interrupted while it
waited for one, or by its own failure, which is passed on unchanged. -/
inductive Error (ε : Type) where
  | exceeded
  | interrupted (reason : Interruption)
  | operation (error : ε)
deriving DecidableEq, Repr

namespace Error

variable {ε : Type}

/-- Whether there was no token. -/
def isExceeded : Error ε → Bool
  | exceeded => true
  | _ => false

/-- Whether the wait for a token was given up. -/
def isInterrupted : Error ε → Bool
  | interrupted _ => true
  | _ => false

/-- The text of a refusal. -/
def exceededText : String := "rate limit exceeded"

instance [Described ε] : Described (Error ε) where
  describe
    | exceeded => exceededText
    | interrupted reason => describe reason
    | operation error => describe error

end Error

end Resilience.Rate
