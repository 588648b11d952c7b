import Resilience.Text.Alphanumeric

/-!
# Words

A text is read as a sequence of words : its longest runs of letters, digits and underscores, with
capitals folded to small letters. Folding matters only to words that can be compared with ASCII
ones, so `foldCase` maps the characters whose small form begins with an ASCII letter and keeps all
others : the small form of a letter beyond ASCII is a letter beyond ASCII, but for the Kelvin
sign and the dotted capital I.
-/

namespace Resilience.Text

/-- The small form of a character whose small form begins with an ASCII letter, and every other
character unchanged. The dotted capital I becomes a small one with a combining dot. -/
def foldChar (c : Char) : List Char :=
  if c = '\u212a' then ['k']
  else if c = '\u0130' then ['i', '\u0307']
  else [c.toLower]

/-- A text without the difference of upper and lower case. -/
def foldCase (cs : List Char) : List Char := cs.flatMap foldChar

/-- Whether a character belongs to a word. -/
def isWordChar (c : Char) : Bool := isAlphanumeric c || c == '_'

/-- The longest runs of word characters, first to last. `word` holds the run that is being read,
last character first. -/
def runs (word : List Char) : List Char → List (List Char)
  | [] => if word.isEmpty then [] else [word.reverse]
  | c :: cs =>
    if isWordChar c then runs (c :: word) cs
    else if word.isEmpty then runs [] cs
    else word.reverse :: runs [] cs

/-- The words of a text in small letters. -/
def words (s : String) : List String := (runs [] (foldCase s.toList)).map String.ofList

/-- Whether `phrase` occurs in `ws` as consecutive words. -/
def mentions (ws phrase : List String) : Bool :=
  phrase.isPrefixOf ws || match ws with
    | [] => false
    | _ :: rest => mentions rest phrase

end Resilience.Text
