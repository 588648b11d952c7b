import Resilience.Document.Quantity
import Resilience.Document.Text

/-!
# Lexemes

A document is written as a sequence of lexemes with blanks between them. Reading lexemes stops
early only at a piece of text that nobody could pass over : such a piece is the last lexeme, and
says what it started as. A number too large and a text with a lone surrogate are flawed for readers
that want them, and lexemes follow.
-/

namespace Resilience.Document

/-- What a flawed piece of text started as. -/
inductive Start where
  | word
  | number
  | text
deriving DecidableEq, Repr

/-- A piece of a document between blanks. -/
inductive Lexeme where
  | openArray
  | closeArray
  | openObject
  | closeObject
  | comma
  | colon
  | null
  | bool (b : Bool)
  | number (q : Quantity)
  | text (s : String)
  | flawed (start : Start) (flaw : Flaw)
  /-- A character that no lexeme starts with. -/
  | stray

/-- Takes `word` off the front of a text. -/
def expect (word : List Char) (cs : List Char) : Except Fault (List Char) :=
  match word, cs with
  | [], cs => .ok cs
  | _ :: _, [] => .error .cut
  | w :: ws, c :: cs => if w = c then expect ws cs else .error .malformed

theorem length_of_expect {word cs rest : List Char} (h : expect word cs = .ok rest) :
    rest.length ≤ cs.length := by
  fun_induction expect word cs <;> grind

/-- The blanks between lexemes. -/
def isSpace (c : Char) : Bool := c = ' ' || c = '\t' || c = '\n' || c = '\r'

/-- A lexeme that is one character. -/
def mark? : Char → Option Lexeme
  | '[' => some .openArray
  | ']' => some .closeArray
  | '{' => some .openObject
  | '}' => some .closeObject
  | ',' => some .comma
  | ':' => some .colon
  | _ => none

/-- The rest of a word that starts with a letter, and the lexeme it is. -/
def word? : Char → Option (List Char × Lexeme)
  | 'n' => some ("ull".toList, .null)
  | 't' => some ("rue".toList, .bool true)
  | 'f' => some ("alse".toList, .bool false)
  | _ => none

/-- The lexeme of a number. -/
def Lexeme.ofNumeral (integral : Bool) (n : Number.Numeral) : Lexeme :=
  match Quantity.ofNumeral? integral n with
  | some q => .number q
  | none => .flawed .number ⟨.malformed, none⟩

/-- The lexeme of a closed quoted text. -/
def Lexeme.ofPieces (ps : List Piece) : Lexeme :=
  match join none ps with
  | .ok cs => .text (String.ofList cs)
  | .error f => .flawed .text ⟨f, none⟩

/-- The lexeme of a quoted text that ends with the fault `f`. -/
def Lexeme.ofBroken (ps : List Piece) (f : Fault) : Lexeme :=
  match join (some f) ps with
  | .ok _ => .flawed .text (.plain f)
  | .error t => .flawed .text ⟨t, some f⟩

/-- The lexemes of a text. -/
def lex : List Char → List Lexeme
  | [] => []
  | c :: cs =>
    if isSpace c then lex cs
    else match mark? c with
    | some l => l :: lex cs
    | none =>
      match word? c with
      | some (word, l) =>
        match _h : expect word cs with
        | .ok rest => l :: lex rest
        | .error f => [.flawed .word (.plain f)]
      | none =>
        if c = '"' then
          match _h : scan cs with
          | (ps, .closed rest) => .ofPieces ps :: lex rest
          | (ps, .broken f) => [.ofBroken ps f]
        else if c = '-' ∨ Number.isDigit c then
          match _h : scanNumber (c :: cs) with
          | .read n integral rest => .ofNumeral integral n :: lex rest
          | .flawed flaw => [.flawed .number flaw]
        else
          [.stray]
termination_by cs => cs.length
decreasing_by
  · exact Nat.lt_succ_self _
  · exact Nat.lt_succ_self _
  · exact Nat.lt_succ_of_le (length_of_expect _h)
  · exact Nat.lt_succ_of_lt (length_of_scan _h)
  · exact length_of_scanNumber _h

end Resilience.Document
