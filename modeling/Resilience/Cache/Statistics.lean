/-!
# Cache statistics

Counters of a store's life : reads that found a live value and reads that did not, keys given up
for room, entries removed because they had expired, and the number of entries now stored.
-/

namespace Resilience.Cache

/-- Counters of 64 bits, kept as natural numbers : the first four together count no more than there
were calls (`Usage.report_accounts_for_calls`), and the last one what is stored, so it would take as
many calls to run over. -/
structure Statistics where
  hits : Nat := 0
  misses : Nat := 0
  evictions : Nat := 0
  expirations : Nat := 0
  entries : Nat := 0
deriving DecidableEq, Repr, Inhabited

namespace Statistics

/-- Counts a read that found a live value. -/
def addHit (s : Statistics) : Statistics := { s with hits := s.hits + 1 }

/-- Counts a read that found none. -/
def addMiss (s : Statistics) : Statistics := { s with misses := s.misses + 1 }

/-- Counts a key given up for room. -/
def addEviction (s : Statistics) : Statistics := { s with evictions := s.evictions + 1 }

/-- Counts entries removed because they had expired. -/
def addExpirations (s : Statistics) (n : Nat) : Statistics :=
  { s with expirations := s.expirations + n }

/-- The share of reads that were hits, zero before the first read. -/
def hitRate (s : Statistics) : Float :=
  if s.hits + s.misses = 0 then 0 else Float.ofNat s.hits / Float.ofNat (s.hits + s.misses)

end Statistics

end Resilience.Cache
