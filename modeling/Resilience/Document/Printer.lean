import Resilience.Document.Basic

/-!
# Writing documents

Documents are written without blanks. In a quoted text the quote, the backslash and the control
characters are escaped, five of these by a letter and the rest by four digits; everything else
stands for itself. A float that is no number or infinite is written as `null`, and so is a value
that could not be read.
-/

namespace Resilience.Document

/-- Two hexadecimal digits of a number below 256. -/
def hexByte (n : Nat) : String :=
  String.ofList [Nat.digitChar (n / 16), Nat.digitChar (n % 16)]

/-- A character between quotes. -/
def quoteChar (c : Char) : String :=
  match c with
  | '"' => "\\\""
  | '\\' => "\\\\"
  | '\x08' => "\\b"
  | '\x0c' => "\\f"
  | '\n' => "\\n"
  | '\r' => "\\r"
  | '\t' => "\\t"
  | c => if c.val < 0x20 then "\\u00" ++ hexByte c.toNat else c.toString

/-- A text between quotes. -/
def quote (s : String) : String :=
  "\"" ++ String.join (s.toList.map quoteChar) ++ "\""

/-- A number as text. -/
def Quantity.write : Quantity → String
  | natural n => toString n
  | negative n => "-" ++ toString n
  | float x => if x.isFinite then Number.FloatForm.plain.write x else "null"

mutual

/-- The text of a document. -/
def write : Document → String
  | null => "null"
  | bool b => if b then "true" else "false"
  | number q => q.write
  | text s => quote s
  | array items _ => "[" ++ writeItems items ++ "]"
  | object members _ => "\x7b" ++ writeMembers members ++ "\x7d"
  | flawed _ _ => "null"

/-- The items of an array with commas between them. -/
def writeItems : List Document → String
  | [] => ""
  | [d] => write d
  | d :: ds => write d ++ "," ++ writeItems ds

/-- The members of an object with commas between them. -/
def writeMembers : List (Key × Document) → String
  | [] => ""
  | [(k, d)] => writeKey k ++ ":" ++ write d
  | (k, d) :: ms => writeKey k ++ ":" ++ write d ++ "," ++ writeMembers ms
where
  writeKey : Key → String
    | .name s => quote s
    | _ => quote ""

end

end Resilience.Document
