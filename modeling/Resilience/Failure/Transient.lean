import Resilience.Failure.Chain
import Resilience.Text.Words

/-!
# Which failures are worth another try

A chain of failures is transient when one of its links is, by its kind, as a time limit that ran
out, or by the words of its text, unless a link is of a kind that no other try can help. Whatever
is not recognised is permanent.
-/

namespace Resilience

namespace Transient

/-- Words that speak of trouble that passes. -/
def phrases : List (List String) :=
  [ ["timeout"],
    ["timed", "out"],
    ["connection", "reset"],
    ["connection", "refused"],
    ["connection", "closed"],
    ["connection", "aborted"],
    ["unavailable"],
    ["temporarily"],
    ["too", "many", "requests"],
    ["rate", "limit"],
    ["rate", "limited"],
    ["throttled"] ]

/-- Words that introduce a status. -/
def statusWords : List String := ["http", "status", "code"]

/-- Statuses that speak of trouble that passes. -/
def statuses : List String := ["429", "502", "503", "504"]

/-- Whether a status that passes is named right after a word that introduces it. -/
def namesStatus : List String → Bool
  | v :: w :: rest => statusWords.contains v && statuses.contains w || namesStatus (w :: rest)
  | _ => false

/-- Whether a text speaks of trouble that passes. -/
def message (s : String) : Bool :=
  let ws := Text.words s
  phrases.any (Text.mentions ws) || namesStatus ws

end Transient

namespace Link

/-- Whether no other try can help, whatever the texts say. -/
def isPermanent (l : Link) : Bool := l.kind?.any IoKind.isPermanent

/-- Whether the link by itself is worth another try. -/
def isTransient (l : Link) : Bool :=
  l.kind?.any IoKind.isTransient || l.isElapsed || Transient.message l.text

/-- Reads a chain from the outermost link on, `transient` telling whether a link so far was. -/
def worthRetrying (transient : Bool) : List Link → Bool
  | [] => transient
  | l :: rest => if l.isPermanent then false else worthRetrying (transient || l.isTransient) rest

end Link

/-- Whether a failure is worth another try. -/
def Failure.isRetryable (f : Failure) : Bool := Link.worthRetrying false f.links

/-- Whether a value that is a failure is worth another try. -/
def isRetryable {ε : Type} [Chained ε] (e : ε) : Bool := (toFailure e).isRetryable

/-- Whether a failed operation on the outside world is worth another try. -/
def IoError.isRetryable (e : IoError) : Bool := Resilience.isRetryable e

end Resilience
