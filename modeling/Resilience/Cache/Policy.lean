import Resilience.Text.Blank

/-!
# Eviction policies

Which key a full cache gives up. A policy is written by its three-letter name (four for `fifo`),
in either case and with blanks around it.
-/

namespace Resilience.Cache

/-- Which key a full cache gives up. -/
inductive Policy where
  /-- The key least recently written or read. -/
  | lru
  /-- The key stored first; writing it again does not renew it. -/
  | fifo
  /-- The key read least often, and of these the one least recently written or read. -/
  | lfu
deriving DecidableEq, Repr, Inhabited

namespace Policy

/-- Every policy. -/
def all : List Policy := [lru, fifo, lfu]

/-- The name by which a policy is set. -/
def name : Policy → String
  | lru => "lru"
  | fifo => "fifo"
  | lfu => "lfu"

/-- The policy with exactly this name. -/
def ofName? (s : String) : Option Policy :=
  all.find? (·.name == s)

/-- Reads a policy's name, blanks around it and the case of ASCII letters aside. A text that is
no name is refused with the text that was compared. -/
def parse (s : String) : Except String Policy :=
  let name := (Text.trim s).map Char.toLower
  match ofName? name with
  | some p => .ok p
  | none => .error name

/-- The sentence that refuses `text` as a policy. -/
def unknown (text : String) : String := "unknown eviction policy: " ++ text

theorem ofName?_name (p : Policy) : ofName? p.name = some p := by
  cases p <;> decide

end Policy

end Resilience.Cache
