/-!
# Blank characters

The characters with the property White_Space, and the text between the blanks at its ends.
-/

namespace Resilience.Text

/-- The characters with the Unicode property White_Space. -/
def isBlank (c : Char) : Bool :=
  c.val ≤ 0x20 && (c.val == 0x20 || 0x09 ≤ c.val && c.val ≤ 0x0d)
    || c.val == 0x85 || c.val == 0xa0 || c.val == 0x1680
    || 0x2000 ≤ c.val && c.val ≤ 0x200a
    || c.val == 0x2028 || c.val == 0x2029 || c.val == 0x202f || c.val == 0x205f
    || c.val == 0x3000

/-- The characters between the blanks at either end. -/
def trimChars (cs : List Char) : List Char :=
  ((cs.dropWhile isBlank).reverse.dropWhile isBlank).reverse

/-- The text between the blanks at either end. -/
def trim (s : String) : String := String.ofList (trimChars s.toList)

end Resilience.Text
