import Resilience.Document.Reader
import Resilience.Text.Quoted
import Resilience.Time

/-!
# Reading records

A record is read from an object, whose names say which field a member sets, or from an array, whose
items set the fields in their order. Fields that are not set keep the value the record starts with.
Members with other names are passed over; a field set twice is refused.

Values are refused for what they are or for what they hold, and faults of the text where the reader
comes to them. What is wrong first, from left to right, is the answer (`Refusal`).
-/

namespace Resilience.Document

/-- Why a text is not read. -/
inductive Refusal where
  /-- The text is no document. -/
  | fault (f : Fault)
  /-- A value is not of the kind that is wanted. -/
  | wrongKind (found wanted : String)
  /-- A value is of the right kind and out of range. -/
  | wrongValue (found wanted : String)
  /-- A name is not among the names there are. -/
  | unknownName (name : String) (known : List String)
  /-- A field is set a second time. -/
  | repeated (field : String)
deriving DecidableEq, Repr

/-- Names between backquotes with commas between them. -/
def enumerate (names : List String) : String :=
  String.intercalate ", " (names.map fun n => "\x60" ++ n ++ "\x60")

/-- What is wrong with a value. Faults of the text have no sentence. -/
def Refusal.sentence? : Refusal → Option String
  | fault _ => none
  | wrongKind found wanted => some ("invalid type: " ++ found ++ ", expected " ++ wanted)
  | wrongValue found wanted => some ("invalid value: " ++ found ++ ", expected " ++ wanted)
  | unknownName name known =>
    some ("unknown variant \x60" ++ name ++ "\x60, expected one of " ++ enumerate known)
  | repeated field => some ("duplicate field \x60" ++ field ++ "\x60")

/-! ## What a value is called -/

/-- What a number is called. -/
def Quantity.title : Quantity → String
  | natural n => "integer \x60" ++ toString n ++ "\x60"
  | negative n => "integer \x60-" ++ toString n ++ "\x60"
  | float x => "floating point \x60" ++ Number.FloatForm.plain.write x ++ "\x60"

/-- What a value of the wrong kind is refused as. -/
def mistaken (wanted : String) : Document → Refusal
  | null => .wrongKind "null" wanted
  | bool b => .wrongKind ("boolean \x60" ++ (if b then "true" else "false") ++ "\x60") wanted
  | number q => .wrongKind q.title wanted
  | text s => .wrongKind ("string " ++ Text.quoted s) wanted
  | array _ _ => .wrongKind "sequence" wanted
  | object _ _ => .wrongKind "map" wanted
  | flawed _ flaw => .fault flaw.taken

/-! ## Values -/

/-- A whole number of at most `limit`. -/
def asNatural (wanted : String) (limit : Nat) : Document → Except Refusal Nat
  | number (.natural n) =>
    if n ≤ limit then .ok n else .error (.wrongValue (Quantity.natural n).title wanted)
  | number (.negative n) => .error (.wrongValue (Quantity.negative n).title wanted)
  | d => .error (mistaken wanted d)

/-- A whole number of 32 bits. -/
def asWord32 (d : Document) : Except Refusal UInt32 :=
  (asNatural "u32" Number.word32Limit d).map UInt32.ofNat

/-- A duration written as a whole number of milliseconds. -/
def asMillis (wanted : String) (d : Document) : Except Refusal Nat :=
  (asNatural wanted Number.wordLimit d).map Time.ofMillis

/-- A duration as whole milliseconds, the most that 64 bits hold if there are more. -/
def millis (d : Nat) : Document := natural (min (Time.toMillis d) Number.wordLimit)

/-- A number. -/
def asFloat (wanted : String) : Document → Except Refusal Float
  | number q => .ok q.toFloat
  | d => .error (mistaken wanted d)

/-- A truth value. -/
def asBool (wanted : String) : Document → Except Refusal Bool
  | bool b => .ok b
  | d => .error (mistaken wanted d)

/-- The value of a name alone, which is null. -/
def asUnit (wanted : String) : Document → Except Refusal Unit
  | null => .ok ()
  | d => .error (mistaken wanted d)

/-- One of several names : a text, or an object with the name over null. -/
def asChoice {α : Type} (known : List String) (find : String → Option α) :
    Document → Except Refusal α
  | text s => match find s with
    | some a => .ok a
    | none => .error (.unknownName s known)
  | object [] fault => .error (.fault (fault.getD .malformed))
  | object ((.name s, d) :: ms) fault => do
    let a ← match find s with
      | some a => .ok a
      | none => .error (.unknownName s known)
    asUnit "unit" d
    match ms, fault with
    | [], none => .ok a
    | [], some f => .error (.fault f)
    | _ :: _, _ => .error (.fault .malformed)
  | object ((.garbled, _) :: _) _ => .error (.fault .malformed)
  | object ((.misplaced, d) :: _) _ => .error (mistaken "variant identifier" d)
  | flawed none flaw => .error (.fault flaw.taken)
  | flawed (some .text) flaw => .error (.fault flaw.taken)
  | _ => .error (.fault .malformed)

/-! ## Records -/

/-- A field of a record : its name, and how a value sets it. -/
structure Field (σ : Type) where
  name : String
  set : Document → σ → Except Refusal σ

/-- A field whose value is read by `read` and put in by `put`. -/
def Field.of {σ α : Type} (name : String) (read : Document → Except Refusal α)
    (put : α → σ → σ) : Field σ :=
  ⟨name, fun d s => (read d).map fun a => put a s⟩

variable {σ : Type}

/-- Sets fields from members in order. `seen` are the fields set already. -/
def setMembers (fields : List (Field σ)) (seen : List String) (s : σ) :
    List (Key × Document) → Except Refusal σ
  | [] => .ok s
  | (.name n, d) :: ms =>
    match fields.find? (·.name == n) with
    | some field =>
      if n ∈ seen then .error (.repeated n)
      else do setMembers fields (n :: seen) (← field.set d s) ms
    | none =>
      match passFault? d with
      | some f => .error (.fault f)
      | none => setMembers fields seen s ms
  | (.garbled, _) :: _ => .error (.fault .malformed)
  | (.misplaced, d) :: _ => .error (.fault (misplacedFlaw d).taken)

/-- Sets fields from items in order. Items beyond the fields are malformed. -/
def setItems (s : σ) : List (Field σ) → List Document → Except Refusal σ
  | _, [] => .ok s
  | [], _ :: _ => .error (.fault .malformed)
  | field :: fields, d :: ds => do setItems (← field.set d s) fields ds

/-- Reads a record that starts as `s`. -/
def asRecord (title : String) (fields : List (Field σ)) (s : σ) : Document → Except Refusal σ
  | object members fault => do
    let s ← setMembers fields [] s members
    match fault with
    | none => .ok s
    | some f => .error (.fault f)
  | array items fault => do
    let s ← setItems s fields items
    match fault with
    | none => .ok s
    | some f => .error (.fault f)
  | d => .error (mistaken ("struct " ++ title) d)

/-- Reads a text as a document and the document by `f`. Nothing may follow the document. -/
def readAs {α : Type} (f : Document → Except Refusal α) (s : String) : Except Refusal α := do
  let (d, followed) := read s
  let a ← f d
  if followed then .error (.fault .malformed) else .ok a

end Resilience.Document
