import Resilience.Cache.Compute
import Resilience.Activity.Operation
import Resilience.Rate.Execute
import Resilience.Retry.Execute
import Resilience.Service.Body

/-!
# Looking up a key

A look-up composes the components : the limiter admits it, the cache answers it if it can, and
otherwise the resolver is called, again and again while its failures are transient, until a
deadline five seconds after the look-up began. A key that is too long is refused before anything
else.
-/

namespace Resilience

/-- Finds the value of a key. The answer may depend on how often a resolver has been called
before. -/
abbrev Resolver := Nat → String → Except IoError String

/-- The resolver that makes the value from the key. -/
def Resolver.echo : Resolver := fun _ key => .ok ("value:" ++ key)

/-- A service's fixed parts. What changes is in the world. -/
structure Service where
  retry : Retry.Config
  resolver : Resolver := .echo
  startedAt : Nat := 0
  /-- The samples by which waits are lengthened or shortened. -/
  samples : Nat → Float := fun _ => 0.5
  /-- The time of day at an instant, as it is written in answers. -/
  timeOfDay : Nat → String

namespace Service

/-- The most octets that a key may have. -/
def keyLimit : Nat := 256

/-- How long a look-up may go on. -/
def lookupTimeout : Nat := 5 * Time.second

/-- The refusal of a key that is too long. -/
def keyTooLong : Error :=
  .invalidRequest ("key exceeds maximum length of " ++ toString keyLimit ++ " characters")

/-- States of a call of the resolver. -/
abbrev Resolving := Option (Wait × Except IoError String)

/-- States of a look-up that has its handle. -/
abbrev Looking := Option (Option (Retry.Stage Resolving))

/-- A call of the resolver. -/
def resolve (s : Service) (key : String) : Activity Resolving (Except IoError String) :=
  .call fun w => { result := s.resolver w.calls.length key }

/-- A look-up under a handle. -/
def guarded (s : Service) (key : String) (handle : Cancellation) :
    Activity Looking (Except (Rate.Error (Retry.Error IoError)) Cache.Answer) :=
  Rate.execute <| Cache.getOrCompute key none <|
    Retry.runClassified s.retry handle s.samples fun _ => s.resolve key

/-- What a client is told of a look-up's result. -/
def answer (key : String) (r : Except (Rate.Error (Retry.Error IoError)) Cache.Answer) :
    Except Error Found :=
  match r with
  | .ok a => .ok ⟨key, a.value, a.found⟩
  | .error e => .error (.ofRate .ofRetry e)

/-- Checks a key and gives its look-up a handle with a deadline. -/
def checkKey (key : String) (w : World) : World × Except (Except Error Found) Cancellation :=
  if keyLimit < key.utf8ByteSize then
    (w, .error (.error keyTooLong))
  else
    let (token, tokens) := w.tokens.fresh
    ({ w with tokens }, .ok (Cancellation.withTimeout { token } w.now lookupTimeout))

/-- Looks up a key. -/
def lookup (s : Service) (key : String) :
    Activity (Option (Cancellation × Looking)) (Except Error Found) :=
  .prepare (checkKey key) fun handle => (s.guarded key handle).map (answer key)

end Service

end Resilience
