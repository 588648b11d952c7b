import Resilience.Rate.Error
import Resilience.Retry.Error

/-!
# How a request fails

The failures of the components become one of five answers, each with a status and a sentence.
-/

namespace Resilience.Service

/-- Why a request is not served. -/
inductive Error where
  | rateLimited
  | invalidRequest (text : String)
  | unavailable (text : String)
  | interrupted (reason : Interruption)
  | internal (text : String)
deriving DecidableEq, Repr, Inhabited

namespace Error

instance : Described Error where
  describe
    | rateLimited => "Rate limit exceeded"
    | invalidRequest text => "Invalid request: " ++ text
    | unavailable text => "Upstream unavailable: " ++ text
    | interrupted reason => "Request interrupted: " ++ describe reason
    | internal text => "Internal error: " ++ text

/-- The status of the response. -/
def status : Error → Nat
  | rateLimited => 429
  | invalidRequest _ => 400
  | unavailable _ => 503
  | interrupted .cancelled => 503
  | interrupted .deadlineExceeded => 504
  | internal _ => 500

/-- The failure behind this one. -/
def source? : Error → Option Interruption
  | interrupted reason => some reason
  | _ => none

variable {ε : Type}

/-- An exhausted retry counts as unavailable, and a failure not worth another attempt as an
internal one. -/
def ofRetry [Described ε] : Retry.Error ε → Error
  | .interrupted reason => interrupted reason
  | e@(.exhausted ..) => unavailable (describe e)
  | .aborted error => internal (describe error)

/-- A limited operation's own failure becomes what `f` makes of it. -/
def ofRate (f : ε → Error) : Rate.Error ε → Error
  | .exceeded => rateLimited
  | .interrupted reason => interrupted reason
  | .operation error => f error

end Error

end Resilience.Service
