/-!
# Faults in written documents

A text that is no document either ends too early or is malformed. What is wrong with a piece of
text may depend on whether its value is wanted : a reader that only passes over a piece accepts
more, and may name the fault differently.
-/

namespace Resilience.Document

/-- Why a text is no document. -/
inductive Fault where
  /-- The text ends before the document does. -/
  | cut
  /-- Something stands where it must not. -/
  | malformed
deriving DecidableEq, Repr, Inhabited

/-- What is wrong with a piece of text. -/
structure Flaw where
  /-- The fault met by a reader that wants its value. -/
  taken : Fault
  /-- The fault, if any, met by a reader that passes over it. -/
  passed : Option Fault
deriving DecidableEq, Repr, Inhabited

/-- A flaw that is the same for every reader. -/
def Flaw.plain (f : Fault) : Flaw := ⟨f, some f⟩

end Resilience.Document
