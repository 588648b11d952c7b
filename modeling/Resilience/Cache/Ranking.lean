import Std.Data.TreeMap
import Resilience.Cache.Policy
import Resilience.Number.Word

/-!
# Ranking the stored keys

A `Ranking` orders the keys of a cache by who leaves first. Every write and every read of a
tracked key takes one tick of a logical clock, and the key's rank is the number of reads that
count for it together with a tick. The key of least rank is the victim.

Two maps hold the same pairs, one by key and one by rank. A policy differs from another only in
what a second write and a read do to the rank (`Policy.rankAfterWrite`, `Policy.rankAfterRead`) :
the first policy renews the tick, the second changes nothing, the third renews the tick and
counts reads.
-/

namespace Resilience.Cache

/-- The place of a key : reads counted first, then the tick. -/
structure Rank where
  reads : Nat
  tick : Nat
deriving DecidableEq, Repr, Inhabited

namespace Rank

instance : Ord Rank := ⟨compareLex (compareOn reads) (compareOn tick)⟩

instance : Std.TransOrd Rank :=
  inferInstanceAs (Std.TransCmp (compareLex (compareOn reads) (compareOn tick)))

instance : Std.LawfulEqOrd Rank where
  eq_of_compare {a b} h := by
    obtain ⟨h₁, h₂⟩ := Ordering.then_eq_eq.1 h
    cases a
    cases b
    simp_all [compareOn]

end Rank

/-- The largest number of reads counted for a key. -/
def readLimit : Nat := Number.wordLimit

/-- The rank of a tracked key after it is written again at `tick`. -/
def Policy.rankAfterWrite (rank : Rank) (tick : Nat) : Policy → Rank
  | lru => ⟨0, tick⟩
  | fifo => rank
  | lfu => ⟨rank.reads, tick⟩

/-- The rank of a tracked key after it is read at `tick`. -/
def Policy.rankAfterRead (rank : Rank) (tick : Nat) : Policy → Rank
  | lru => ⟨0, tick⟩
  | fifo => rank
  | lfu => ⟨min (rank.reads + 1) readLimit, tick⟩

/-- The tracked keys in the order they are to be given up. -/
structure Ranking where
  policy : Policy
  order : Std.TreeMap Rank String
  ranks : Std.TreeMap String Rank
  /-- Ticks taken so far, a number of 64 bits kept as a natural number : there are no more of them
  than requests to the store (`Usage.clock_run_le`), so it would take as many to run over. -/
  clock : Nat

namespace Ranking

/-- No keys, ranked by a policy. -/
def empty (policy : Policy) : Ranking := ⟨policy, ∅, ∅, 0⟩

instance : Inhabited Ranking := ⟨empty default⟩

/-- How many keys are tracked. -/
def size (q : Ranking) : Nat := q.ranks.size

/-- Whether no key is tracked. -/
def isEmpty (q : Ranking) : Bool := q.ranks.isEmpty

/-- Whether `key` is tracked. -/
def contains (q : Ranking) (key : String) : Bool := q.ranks.contains key

/-- The place of `key`, if it is tracked. -/
def rank? (q : Ranking) (key : String) : Option Rank := q.ranks[key]?

/-- Gives `key` the place `rank`, where it had the place `old` if any. -/
def place (q : Ranking) (key : String) (old : Option Rank) (rank : Rank) : Ranking :=
  { q with
    order := (old.elim q.order q.order.erase).insert rank key
    ranks := q.ranks.insert key rank }

/-- Records a write of `key`, its first or a later one. -/
def recordWrite (q : Ranking) (key : String) : Ranking :=
  let tick := q.clock + 1
  let rank := match q.rank? key with
    | none => ⟨0, tick⟩
    | some rank => q.policy.rankAfterWrite rank tick
  { q with clock := tick }.place key (q.rank? key) rank

/-- Records a read of `key`. A key that is not tracked is ignored and takes no tick. -/
def recordRead (q : Ranking) (key : String) : Ranking :=
  match q.rank? key with
  | none => q
  | some rank =>
    let tick := q.clock + 1
    { q with clock := tick }.place key (some rank) (q.policy.rankAfterRead rank tick)

/-- Stops tracking `key`. -/
def remove (q : Ranking) (key : String) : Ranking :=
  match q.rank? key with
  | none => q
  | some rank => { q with order := q.order.erase rank, ranks := q.ranks.erase key }

/-- The key of least rank. -/
def victim? (q : Ranking) : Option String := q.order.minEntry?.map Prod.snd

/-- Takes out the key of least rank. -/
def popVictim (q : Ranking) : Option (String × Ranking) :=
  q.order.minEntry?.map fun (rank, key) =>
    (key, { q with order := q.order.erase rank, ranks := q.ranks.erase key })

/-- Stops tracking every key. Ticks are not taken back. -/
def clear (q : Ranking) : Ranking := { q with order := ∅, ranks := ∅ }

end Ranking

end Resilience.Cache
