import Resilience.Text.Hidden

/-!
# Quoted texts in messages

A text inside a message stands between double quotes, with characters that would not show
escaped : the commonest by a letter, the others by their numbers.
-/

namespace Resilience.Text

/-- The hexadecimal digits of a character's number. -/
def hex (c : Char) : String := String.ofList (Nat.toDigits 16 c.toNat)

/-- A character between double quotes. -/
def quotedChar (c : Char) : String :=
  match c with
  | '"' => "\\\""
  | '\\' => "\\\\"
  | '\t' => "\\t"
  | '\n' => "\\n"
  | '\r' => "\\r"
  | '\x00' => "\\0"
  | c => if isHidden c then "\\u\x7b" ++ hex c ++ "\x7d" else c.toString

/-- A text between double quotes. -/
def quoted (s : String) : String := "\"" ++ String.join (s.toList.map quotedChar) ++ "\""

end Resilience.Text
