import Resilience.Document.Fault
import Resilience.Number.Numeral

/-!
# Quoted texts

Between quotes stand characters and escapes. An escape of four hexadecimal digits names a 16-bit
unit; two units that form a surrogate pair name one character, and a surrogate without its partner
names none. `scan` finds the end of a quoted text and `join` its value, so that a text with a lone
surrogate can be passed over and not taken.
-/

namespace Resilience.Document

/-- A part of a quoted text : a character, or a 16-bit unit named by an escape. -/
inductive Piece where
  | char (c : Char)
  | word (n : Nat)
deriving DecidableEq, Repr

/-- How a quoted text ends : with its quote and the characters after it, or with a fault. -/
inductive Ending where
  | closed (rest : List Char)
  | broken (f : Fault)

/-- The value of a hexadecimal digit. -/
def hexDigit? (c : Char) : Option Nat :=
  if '0' ≤ c ∧ c ≤ '9' then some (c.toNat - '0'.toNat)
  else if 'a' ≤ c ∧ c ≤ 'f' then some (c.toNat - 'a'.toNat + 10)
  else if 'A' ≤ c ∧ c ≤ 'F' then some (c.toNat - 'A'.toNat + 10)
  else none

/-- The unit named by four hexadecimal digits. -/
def hexWord? (a b c d : Char) : Option Nat := do
  let a ← hexDigit? a
  let b ← hexDigit? b
  let c ← hexDigit? c
  let d ← hexDigit? d
  some (((a * 16 + b) * 16 + c) * 16 + d)

/-- The character named by a one-letter escape. -/
def shortEscape? : Char → Option Char
  | '"' => some '"'
  | '\\' => some '\\'
  | '/' => some '/'
  | 'b' => some '\x08'
  | 'f' => some '\x0c'
  | 'n' => some '\n'
  | 'r' => some '\r'
  | 't' => some '\t'
  | _ => none

/-- Bytes of a text in UTF-8. -/
def byteSize (cs : List Char) : Nat := cs.foldr (fun c n => c.utf8Size + n) 0

/-- The fault of an escape whose four digits are not all there : four bytes that are no digits are
malformed, fewer are an early end. -/
def unitFault (cs : List Char) : Fault := if byteSize cs < 4 then .cut else .malformed

/-- The parts of a quoted text whose opening quote has been read, and how it ends. -/
def scan : List Char → List Piece × Ending
  | [] => ([], .broken .cut)
  | '"' :: rest => ([], .closed rest)
  | ['\\'] => ([], .broken .cut)
  | '\\' :: 'u' :: a :: b :: c :: d :: rest =>
    match hexWord? a b c d with
    | some n => let (ps, e) := scan rest; (.word n :: ps, e)
    | none => ([], .broken (unitFault (a :: b :: c :: d :: rest)))
  | '\\' :: 'u' :: rest => ([], .broken (unitFault rest))
  | '\\' :: c :: rest =>
    match shortEscape? c with
    | some x => let (ps, e) := scan rest; (.char x :: ps, e)
    | none => ([], .broken .malformed)
  | c :: rest =>
    if c.val < 0x20 then ([], .broken .malformed)
    else let (ps, e) := scan rest; (.char c :: ps, e)

/-- Whether a unit is the first of a surrogate pair. -/
def isLead (n : Nat) : Bool := 0xd800 ≤ n && n ≤ 0xdbff

/-- Whether a unit is the second of a surrogate pair. -/
def isTrail (n : Nat) : Bool := 0xdc00 ≤ n && n ≤ 0xdfff

/-- The character a surrogate pair stands for. -/
def pair (lead trail : Nat) : Char :=
  Char.ofNat (0x10000 + (lead - 0xd800) * 0x400 + (trail - 0xdc00))

/-- The characters of the parts of a text, or the first fault a reader meets that wants them.
`stop` is the fault the text ends with. -/
def join (stop : Option Fault) : List Piece → Except Fault (List Char)
  | [] => match stop with
    | some f => .error f
    | none => .ok []
  | .char c :: ps => (join stop ps).map (c :: ·)
  | .word n :: ps =>
    if isTrail n then .error .malformed
    else if isLead n then
      match ps with
      | [] => .error (stop.getD .malformed)
      | .char _ :: _ => .error .malformed
      | .word m :: ps => if isTrail m then (join stop ps).map (pair n m :: ·) else .error .malformed
    else (join stop ps).map (Char.ofNat n :: ·)

theorem length_of_scan {cs ps rest} (h : scan cs = (ps, .closed rest)) :
    rest.length < cs.length := by
  fun_induction scan cs generalizing ps
  all_goals simp only [Prod.mk.injEq, Ending.closed.injEq, reduceCtorEq, and_false] at h
  all_goals simp only [List.length_cons]
  all_goals grind

end Resilience.Document
