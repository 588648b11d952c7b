import Resilience.Document.Basic

/-!
# Reading documents

A document is built from its lexemes one at a time (`Build.step`). What has been read and not yet
been ended stands in a stack of frames, innermost first. When a lexeme does not fit, or the text
ends, the frames are closed over what was read so far.
-/

namespace Resilience.Document

/-- An array or object whose end is still to come, its parts in reverse. -/
inductive Frame where
  | array (items : List Document)
  | object (members : List (Key × Document))
  /-- An object that waits for the value of its last key. -/
  | member (members : List (Key × Document)) (key : Key)

/-- What may come next. -/
inductive Await where
  | value
  /-- The first item of an array, or its end. -/
  | firstItem
  /-- The first name of an object, or its end. -/
  | firstName
  /-- A name after a comma. -/
  | name
  | colon
  /-- A comma, or the end of the innermost array or object. -/
  | next

/-- The value around `d` in its frames, when nothing after `d` is read any more. -/
def abandon (d : Document) : List Frame → Document
  | [] => d
  | .array items :: stack => abandon (.array (d :: items).reverse none) stack
  | .object members :: stack => abandon (.object members.reverse none) stack
  | .member members key :: stack => abandon (.object ((key, d) :: members).reverse none) stack

/-- The value of the frames, when the innermost ends with the fault. -/
def breakOff (f : Fault) : List Frame → Document
  | [] => .flawed none (.plain f)
  | .array items :: stack => abandon (.array items.reverse (some f)) stack
  | .object members :: stack => abandon (.object members.reverse (some f)) stack
  | .member members _ :: stack => abandon (.object members.reverse (some f)) stack

/-- What stands where a name should, as a value. -/
def Lexeme.misplaced : Lexeme → Document
  | .null => .null
  | .bool b => .bool b
  | .number q => .number q
  | .text s => .text s
  | .openArray => .array [] none
  | .openObject => .object [] none
  | .flawed start flaw => .flawed (some start) flaw
  | _ => .flawed none (.plain .malformed)

/-- A document being built. -/
inductive Build where
  | reading (await : Await) (stack : List Frame)
  /-- The value is complete. Nothing may follow it. -/
  | complete (d : Document) (followed : Bool)
  /-- A fault was met, and nothing is read any more. -/
  | broken (d : Document)

namespace Build

/-- Puts a complete value into its frame. -/
def put (d : Document) : List Frame → Build
  | [] => complete d false
  | .array items :: stack => reading .next (.array (d :: items) :: stack)
  | .object members :: stack => reading .next (.object members :: stack)
  | .member members key :: stack => reading .next (.object ((key, d) :: members) :: stack)

/-- Starts a value. -/
def value (l : Lexeme) (stack : List Frame) : Build :=
  match l with
  | .null => put .null stack
  | .bool b => put (.bool b) stack
  | .number q => put (.number q) stack
  | .text s => put (.text s) stack
  | .openArray => reading .firstItem (.array [] :: stack)
  | .openObject => reading .firstName (.object [] :: stack)
  | .flawed start flaw =>
    match flaw.passed with
    | none => put (.flawed (some start) flaw) stack
    | some _ => broken (abandon (.flawed (some start) flaw) stack)
  | _ => broken (abandon (.flawed none (.plain .malformed)) stack)

/-- Starts a member of the object with these members. -/
def name (l : Lexeme) (members : List (Key × Document)) (stack : List Frame) : Build :=
  match l with
  | .text s => reading .colon (.member members (.name s) :: stack)
  | .flawed .text ⟨_, none⟩ => reading .colon (.member members .garbled :: stack)
  | l => broken (abandon l.misplaced (.member members .misplaced :: stack))

/-- Goes on after a complete item or member. -/
def goOn (l : Lexeme) (stack : List Frame) : Build :=
  match l, stack with
  | .comma, .array items :: stack => reading .value (.array items :: stack)
  | .comma, .object members :: stack => reading .name (.object members :: stack)
  | .closeArray, .array items :: stack => put (.array items.reverse none) stack
  | .closeObject, .object members :: stack => put (.object members.reverse none) stack
  | _, stack => broken (breakOff .malformed stack)

/-- Reads one lexeme. -/
def step : Build → Lexeme → Build
  | reading .value stack, l => value l stack
  | reading .firstItem (.array items :: stack), .closeArray => put (.array items.reverse none) stack
  | reading .firstItem stack, l => value l stack
  | reading .firstName (.object members :: stack), .closeObject =>
    put (.object members.reverse none) stack
  | reading .firstName (.object members :: stack), l => name l members stack
  | reading .name (.object members :: stack), l => name l members stack
  | reading .colon stack, .colon => reading .value stack
  | reading .colon stack, _ => broken (abandon (.flawed none (.plain .malformed)) stack)
  | reading .next stack, l => goOn l stack
  | reading _ stack, _ => broken (breakOff .malformed stack)
  | complete d _, _ => complete d true
  | broken d, _ => broken d

/-- The document when the text ends here, and whether something stood after it. -/
def finish : Build → Document × Bool
  | reading .value stack | reading .colon stack =>
    (abandon (.flawed none (.plain .cut)) stack, false)
  | reading .name (.object members :: stack) =>
    (abandon (.flawed none (.plain .cut)) (.member members .misplaced :: stack), false)
  | reading _ stack => (breakOff .cut stack, false)
  | complete d followed => (d, followed)
  | broken d => (d, false)

end Build

/-- Reads a text as a document, as far as it goes. The second part says whether something stands
after the document's end. -/
def read (s : String) : Document × Bool :=
  ((lex s.toList).foldl Build.step (.reading .value [])).finish

end Resilience.Document
