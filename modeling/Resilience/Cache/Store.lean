import Resilience.Cache.Entry
import Resilience.Cache.Ranking
import Resilience.Cache.Statistics

/-!
# The bounded store

A `Store` holds at most `maxSize` entries. A write of a new key to a full store first gives up
the key its ranking names. A read of an expired entry misses, though the entry stays until
`purge` takes it out, and a read that hits is recorded in the ranking.

Operations take the present instant as an argument.
-/

namespace Resilience.Cache

/-- Bounded storage by key whose entries expire. -/
structure Store (V : Type) where
  entries : Std.TreeMap String (Entry V)
  ranking : Ranking
  statistics : Statistics
  maxSize : Nat
  defaultTtl : Nat

namespace Store

variable {V : Type}

/-- A store for at least one entry and with a lifetime of at least a millisecond. -/
def empty (maxSize : Nat) (defaultTtl : Nat) (policy : Policy) : Store V :=
  { entries := ∅
    ranking := .empty policy
    statistics := {}
    maxSize := max maxSize 1
    defaultTtl := max defaultTtl Time.shortest }

/-- How many entries are stored, expired ones included. -/
def size (s : Store V) : Nat := s.entries.size

/-- Whether nothing is stored, not even what has expired. -/
def isEmpty (s : Store V) : Bool := s.entries.isEmpty

/-- The counters, with the number of entries as it is now. -/
def report (s : Store V) : Statistics := { s.statistics with entries := s.size }

/-- Gives up one entry : the ranking's victim, or should it name none the first key stored. -/
def evict (s : Store V) : Option String × Store V :=
  match s.ranking.popVictim with
  | some (key, ranking) =>
    (some key, { s with
      entries := s.entries.erase key, ranking, statistics := s.statistics.addEviction })
  | none =>
    match s.entries.minKey? with
    | some key =>
      (some key, { s with
        entries := s.entries.erase key, statistics := s.statistics.addEviction })
    | none => (none, s)

/-- Whether a write of `key` has to make room first. -/
def needsRoom (s : Store V) (key : String) : Bool :=
  !s.entries.contains key && s.maxSize ≤ s.size

/-- Stores `value` under `key` at `now` for `ttl`, at least a millisecond. Answers the key given
up for it, if any. -/
def setFor (s : Store V) (key : String) (value : V) (ttl : Nat) (now : Nat) :
    Option String × Store V :=
  let (evicted, s) := if s.needsRoom key then s.evict else (none, s)
  let entries := s.entries.insert key (.storedAt value (max ttl Time.shortest) now)
  (evicted, { s with
    entries
    ranking := s.ranking.recordWrite key
    statistics := { s.statistics with entries := entries.size } })

/-- Stores `value` under `key` for the default lifetime. -/
def set (s : Store V) (key : String) (value : V) (now : Nat) : Option String × Store V :=
  s.setFor key value s.defaultTtl now

/-- The live value under `key`, without counting the look-up. -/
def live? (s : Store V) (key : String) (now : Nat) : Option V :=
  match s.entries[key]? with
  | some e => if e.isExpiredAt now then none else some e.value
  | none => none

/-- Whether `key` holds a live value, without counting the look-up. -/
def containsLive (s : Store V) (key : String) (now : Nat) : Bool := (s.live? key now).isSome

/-- Reads `key`. A hit is counted and recorded in the ranking, a miss only counted. -/
def get (s : Store V) (key : String) (now : Nat) : Option V × Store V :=
  match s.live? key now with
  | some v =>
    (some v, { s with
      ranking := s.ranking.recordRead key, statistics := s.statistics.addHit })
  | none => (none, { s with statistics := s.statistics.addMiss })

/-- Removes `key`. Answers whether it was stored. -/
def delete (s : Store V) (key : String) : Bool × Store V :=
  if s.entries.contains key then
    let entries := s.entries.erase key
    (true, { s with
      entries
      ranking := s.ranking.remove key
      statistics := { s.statistics with entries := entries.size } })
  else
    (false, s)

/-- Removes every entry. Answers how many there were. -/
def clear (s : Store V) : Nat × Store V :=
  (s.size, { s with
    entries := ∅
    ranking := s.ranking.clear
    statistics := { s.statistics with entries := 0 } })

/-- The keys of the entries expired at `now`. -/
def expiredKeys (s : Store V) (now : Nat) : List String :=
  (s.entries.toList.filter fun p => p.2.isExpiredAt now).map Prod.fst

/-- Removes `key` from the entries and the ranking, without counting it. -/
def drop (s : Store V) (key : String) : Store V :=
  { s with entries := s.entries.erase key, ranking := s.ranking.remove key }

/-- Removes the entries expired at `now`. Answers how many there were. -/
def purge (s : Store V) (now : Nat) : Nat × Store V :=
  let expired := s.expiredKeys now
  let s := expired.foldl drop s
  (expired.length, { s with
    statistics := { s.statistics.addExpirations expired.length with entries := s.size } })

end Store

end Resilience.Cache
