/-!
# Routes

A path names a route by its text before any query or fragment. The key of a look-up is the last
segment, with its escaped octets decoded ; what is no proper escape stands for itself.
-/

namespace Resilience.Service

/-- What a path asks for. -/
inductive Route where
  | health
  | stats
  /-- A look-up of the key that the segment spells. -/
  | lookup (segment : String)
  | unknown
deriving DecidableEq, Repr, Inhabited

namespace Route

/-- The text before any query or fragment. -/
def pathOnly (cs : List Char) : List Char := cs.takeWhile fun c => c != '?' && c != '#'

/-- The segment after `/lookup/`, if there is one and nothing follows it. -/
def lookupSegment? (cs : List Char) : Option (List Char) :=
  let stem := "/lookup/".toList
  let segment := cs.drop stem.length
  if stem.isPrefixOf cs && !segment.isEmpty && !segment.contains '/' then some segment else none

/-- The route that a path names. -/
def ofPath (path : String) : Route :=
  let cs := pathOnly path.toList
  if cs = "/health".toList then health
  else if cs = "/stats".toList then stats
  else match lookupSegment? cs with
    | some segment => lookup (String.ofList segment)
    | none => unknown

end Route

/-! ## Escaped octets -/

/-- The value of a hexadecimal digit. -/
def hexValue? (n : UInt8) : Option UInt8 :=
  if 0x30 ≤ n && n ≤ 0x39 then some (n - 0x30)
  else if 0x41 ≤ n && n ≤ 0x46 then some (n - 0x37)
  else if 0x61 ≤ n && n ≤ 0x66 then some (n - 0x57)
  else none

/-- The octet that two hexadecimal digits spell. -/
def octet? (a b : UInt8) : Option UInt8 := do
  let high ← hexValue? a
  let low ← hexValue? b
  return 16 * high + low

/-- Octets with the escaped ones decoded. -/
def decodeOctets : List UInt8 → List UInt8
  | 0x25 :: a :: b :: rest =>
    match octet? a b with
    | some n => n :: decodeOctets rest
    | none => 0x25 :: decodeOctets (a :: b :: rest)
  | n :: rest => n :: decodeOctets rest
  | [] => []

/-- The key that a segment spells, if its octets are a text. -/
def decodeSegment? (segment : String) : Option String :=
  String.fromUTF8? ⟨(decodeOctets segment.toUTF8.toList).toArray⟩

end Resilience.Service
