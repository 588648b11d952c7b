import Resilience.Document.Lexeme
import Resilience.Number.Float

/-!
# Documents

A `Document` is a JSON value, as far as its text could be read. Where a text breaks off or goes
wrong the document keeps all that stands before, and the place of the fault : an array or object
says with what fault it ended, and a value that could not be read is `flawed`. A document without
flaws is `Sound`.

So a reader of documents meets what a reader of the text would meet, in the same order, and may
give up at a value of the wrong kind before it comes to the fault. `passFault?` is the fault met by
a reader that wants none of the values.
-/

namespace Resilience

namespace Document

/-- What stands before a member of an object. -/
inductive Key where
  | name (s : String)
  /-- A text with a lone surrogate, which has no characters. -/
  | garbled
  /-- No text at all : the member's value is what stands in its place. -/
  | misplaced
deriving DecidableEq, Repr

end Document

/-- A JSON value, as far as its text could be read. -/
inductive Document where
  | null
  | bool (b : Bool)
  | number (q : Document.Quantity)
  | text (s : String)
  /-- Items in order, and the fault after them if the array does not end properly. -/
  | array (items : List Document) (fault : Option Document.Fault)
  /-- Members in order, and the fault after them if the object does not end properly. -/
  | object (members : List (Document.Key × Document)) (fault : Option Document.Fault)
  /-- A value that could not be read, and what it started as if that could be told. -/
  | flawed (start : Option Document.Start) (flaw : Document.Flaw)

instance : Inhabited Document := ⟨.null⟩

namespace Document

/-- A proper array. -/
def list (items : List Document) : Document := .array items none

/-- A proper object with these names and values. -/
def record (members : List (String × Document)) : Document :=
  .object (members.map fun m => (.name m.1, m.2)) none

/-- A natural number as a document. -/
def natural (n : Nat) : Document := .number (.natural n)

/-- A number with a point as a document. -/
def float (x : Float) : Document := .number (.float x)

/-- What is wrong with a value in the place of a name. -/
def misplacedFlaw : Document → Flaw
  | flawed none flaw => flaw
  | flawed (some .text) flaw => flaw
  | _ => .plain .malformed

mutual

/-- The first fault met by a reader that passes over the document. -/
def passFault? : Document → Option Fault
  | null | bool _ | number _ | text _ => none
  | array items fault => (passItems? items).or fault
  | object members fault => (passMembers? members).or fault
  | flawed _ flaw => flaw.passed

/-- The first fault met by a reader that passes over the items of an array. -/
def passItems? : List Document → Option Fault
  | [] => none
  | d :: ds => (passFault? d).or (passItems? ds)

/-- The first fault met by a reader that passes over the members of an object. -/
def passMembers? : List (Key × Document) → Option Fault
  | [] => none
  | (.misplaced, d) :: _ => (misplacedFlaw d).passed
  | (_, d) :: ms => (passFault? d).or (passMembers? ms)

end

end Document

end Resilience
