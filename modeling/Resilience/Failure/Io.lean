import Resilience.Failure.Described

/-!
# Failures of input and output

An operation on the outside world fails with a kind and, perhaps, a text of its own. Where there
is none the kind's text stands in.
-/

namespace Resilience

/-- What sort of thing went wrong outside. -/
inductive IoKind where
  | notFound
  | permissionDenied
  | connectionRefused
  | connectionReset
  | connectionAborted
  | notConnected
  | addrInUse
  | addrNotAvailable
  | brokenPipe
  | alreadyExists
  | wouldBlock
  | invalidInput
  | invalidData
  | timedOut
  | writeZero
  | interrupted
  | unsupported
  | unexpectedEof
  | outOfMemory
  | other
  | hostUnreachable
  | networkUnreachable
  | networkDown
  | resourceBusy
  | storageFull
  | deadlock
deriving DecidableEq, Repr, Inhabited

namespace IoKind

/-- The text of a failure that has none of its own. -/
def text : IoKind → String
  | notFound => "entity not found"
  | permissionDenied => "permission denied"
  | connectionRefused => "connection refused"
  | connectionReset => "connection reset"
  | connectionAborted => "connection aborted"
  | notConnected => "not connected"
  | addrInUse => "address in use"
  | addrNotAvailable => "address not available"
  | brokenPipe => "broken pipe"
  | alreadyExists => "entity already exists"
  | wouldBlock => "operation would block"
  | invalidInput => "invalid input parameter"
  | invalidData => "invalid data"
  | timedOut => "timed out"
  | writeZero => "write zero"
  | interrupted => "operation interrupted"
  | unsupported => "unsupported"
  | unexpectedEof => "unexpected end of file"
  | outOfMemory => "out of memory"
  | other => "other error"
  | hostUnreachable => "host unreachable"
  | networkUnreachable => "network unreachable"
  | networkDown => "network down"
  | resourceBusy => "resource busy"
  | storageFull => "no storage space"
  | deadlock => "deadlock"

/-- Kinds that may well not occur on another try. -/
def isTransient : IoKind → Bool
  | timedOut | connectionRefused | connectionReset | connectionAborted | notConnected | brokenPipe
  | interrupted | wouldBlock => true
  | _ => false

/-- Kinds by which a request itself is found wanting, so that no other try can help. -/
def isPermanent : IoKind → Bool
  | invalidInput | invalidData | notFound | permissionDenied => true
  | _ => false

end IoKind

/-- A failed operation on the outside world. -/
structure IoError where
  kind : IoKind
  text? : Option String := none
deriving DecidableEq, Repr, Inhabited

instance : Described IoError where
  describe e := e.text?.getD e.kind.text

end Resilience
