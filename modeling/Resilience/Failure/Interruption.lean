import Resilience.Failure.Described

/-!
# Why work was interrupted
-/

namespace Resilience

/-- Why work was given up from outside. -/
inductive Interruption where
  | cancelled
  | deadlineExceeded
deriving DecidableEq, Repr, Inhabited

instance : Described Interruption where
  describe
    | .cancelled => "operation cancelled"
    | .deadlineExceeded => "deadline exceeded"

end Resilience
