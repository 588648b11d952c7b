import Resilience.Proofs.Cache.Contents
import Resilience.Proofs.Cache.Ranking

/-!
# Stores that are alike

Two maps with the same pairs may have grown into different trees. Stores that differ in nothing else
are alike (`Store.Alike`), and no request tells them apart : it gets the same answer from both and
leaves both alike (`Store.Alike.perform`). So they answer alike for good (`Store.Alike.run`).
-/

namespace Resilience.Cache

variable {V : Type}

/-- Maps in which the same is found under every key have the same pairs. -/
theorem equiv_of_getElem?_eq {α β : Type} {cmp : α → α → Ordering} [Std.TransCmp cmp]
    [Std.LawfulEqCmp cmp] {t t' : Std.TreeMap α β cmp} (h : ∀ k : α, t'[k]? = t[k]?) :
    t.Equiv t' := by
  refine .of_toList_perm (List.Perm.of_eq ?_)
  refine eq_of_pairwise_lt Std.TreeMap.ordered_keys_toList Std.TreeMap.ordered_keys_toList
    fun ⟨k, v⟩ => ?_
  rw [Std.TreeMap.mem_toList_iff_getElem?_eq_some, Std.TreeMap.mem_toList_iff_getElem?_eq_some, h]

namespace Ranking

/-- The same pairs, policy and clock. -/
structure Alike (q q' : Ranking) : Prop where
  policy : q'.policy = q.policy
  clock : q'.clock = q.clock
  order : q.order.Equiv q'.order
  ranks : q.ranks.Equiv q'.ranks

namespace Alike

variable {q q' : Ranking}

theorem rank?_eq (h : q.Alike q') (key : String) : q'.rank? key = q.rank? key :=
  h.ranks.getElem?_eq.symm

/-- Rankings that are alike give up their keys in the same order. -/
theorem queue_eq (h : q.Alike q') : q'.queue = q.queue :=
  congrArg (List.map Prod.snd) h.order.toList_eq.symm

theorem place (h : q.Alike q') (key : String) (old : Option Rank) (rank : Rank) :
    (q.place key old rank).Alike (q'.place key old rank) where
  policy := h.policy
  clock := h.clock
  order := by
    cases old with
    | none => exact h.order.insert rank key
    | some old => exact (h.order.erase old).insert rank key
  ranks := h.ranks.insert key rank

theorem ticked (h : q.Alike q') :
    Alike { q with clock := q.clock + 1 } { q' with clock := q'.clock + 1 } :=
  ⟨h.policy, congrArg (· + 1) h.clock, h.order, h.ranks⟩

/-- A write leaves rankings alike. -/
theorem recordWrite (h : q.Alike q') (key : String) :
    (q.recordWrite key).Alike (q'.recordWrite key) := by
  have hrank := h.rank?_eq key
  have hpolicy := h.policy
  have hclock := h.clock
  have hticked := h.ticked
  unfold Ranking.recordWrite
  simp only [hrank, hpolicy, hclock] at hticked ⊢
  exact hticked.place key _ _

/-- A read leaves rankings alike. -/
theorem recordRead (h : q.Alike q') (key : String) :
    (q.recordRead key).Alike (q'.recordRead key) := by
  have hpolicy := h.policy
  have hclock := h.clock
  have hticked := h.ticked
  unfold Ranking.recordRead
  rw [h.rank?_eq]
  cases q.rank? key with
  | none => exact h
  | some rank =>
    simp only [hpolicy, hclock] at hticked ⊢
    exact hticked.place key _ _

theorem remove (h : q.Alike q') (key : String) : (q.remove key).Alike (q'.remove key) := by
  unfold Ranking.remove
  rw [h.rank?_eq]
  cases q.rank? key with
  | none => exact h
  | some rank => exact ⟨h.policy, h.clock, h.order.erase rank, h.ranks.erase key⟩

theorem clear (h : q.Alike q') : q.clear.Alike q'.clear :=
  ⟨h.policy, h.clock, .rfl, .rfl⟩

end Alike

end Ranking

namespace Store

/-- The same pairs in the maps, and the same in all else. -/
structure Alike (s s' : Store V) : Prop where
  entries : s.entries.Equiv s'.entries
  ranking : s.ranking.Alike s'.ranking
  statistics : s'.statistics = s.statistics
  maxSize : s'.maxSize = s.maxSize
  defaultTtl : s'.defaultTtl = s.defaultTtl

namespace Alike

variable {s s' : Store V}

theorem size_eq (h : s.Alike s') : s'.size = s.size := h.entries.size_eq.symm

/-- Stores that are alike hold the same live values. -/
theorem live?_eq (h : s.Alike s') (key : String) (now : Nat) :
    s'.live? key now = s.live? key now := by
  unfold live?
  rw [h.entries.getElem?_eq]

/-- Stores that are alike list the same keys as expired. -/
theorem expiredKeys_eq (h : s.Alike s') (now : Nat) : s'.expiredKeys now = s.expiredKeys now := by
  unfold expiredKeys
  rw [h.entries.toList_eq]

/-! ## One request -/

/-- Stores that are alike give up the same key. -/
theorem evict (h : s.Alike s') : s'.evict.1 = s.evict.1 ∧ s.evict.2.Alike s'.evict.2 := by
  have herased : ∀ key : String, (s.entries.erase key).Equiv (s'.entries.erase key) :=
    fun key => h.entries.erase key
  unfold Store.evict Ranking.popVictim
  rw [← h.ranking.order.minEntry?_eq, ← h.entries.minKey?_eq, h.statistics]
  cases s.ranking.order.minEntry? with
  | some victim =>
    obtain ⟨rank, key⟩ := victim
    refine ⟨rfl, herased key, ?_, rfl, h.maxSize, h.defaultTtl⟩
    exact ⟨h.ranking.policy, h.ranking.clock, h.ranking.order.erase rank, h.ranking.ranks.erase key⟩
  | none =>
    cases s.entries.minKey? with
    | some key => exact ⟨rfl, herased key, h.ranking, rfl, h.maxSize, h.defaultTtl⟩
    | none => exact ⟨rfl, h⟩

/-- A write to stores that are alike gives the same answer, and leaves them alike. -/
theorem setFor (h : s.Alike s') (key : String) (value : V) (ttl now : Nat) :
    (s'.setFor key value ttl now).1 = (s.setFor key value ttl now).1 ∧
      (s.setFor key value ttl now).2.Alike (s'.setFor key value ttl now).2 := by
  have written : ∀ {s s' : Store V}, s.Alike s' → ∀ e : Entry V,
      Alike
        { s with
          entries := s.entries.insert key e
          ranking := s.ranking.recordWrite key
          statistics := { s.statistics with entries := (s.entries.insert key e).size } }
        { s' with
          entries := s'.entries.insert key e
          ranking := s'.ranking.recordWrite key
          statistics := { s'.statistics with entries := (s'.entries.insert key e).size } } := by
    intro s s' h e
    refine ⟨h.entries.insert key e, h.ranking.recordWrite key, ?_, h.maxSize, h.defaultTtl⟩
    rw [h.statistics, (h.entries.insert key e).size_eq]
  have hroom : s'.needsRoom key = s.needsRoom key := by
    unfold needsRoom
    rw [← h.entries.contains_eq, h.maxSize, h.size_eq]
  unfold Store.setFor
  rw [hroom]
  cases s.needsRoom key with
  | false => exact ⟨rfl, written h _⟩
  | true => exact ⟨h.evict.1, written h.evict.2 _⟩

theorem get (h : s.Alike s') (key : String) (now : Nat) :
    (s'.get key now).1 = (s.get key now).1 ∧ (s.get key now).2.Alike (s'.get key now).2 := by
  unfold Store.get
  rw [h.live?_eq, h.statistics]
  cases s.live? key now with
  | some v =>
    exact ⟨rfl, h.entries, h.ranking.recordRead key, rfl, h.maxSize, h.defaultTtl⟩
  | none => exact ⟨rfl, h.entries, h.ranking, rfl, h.maxSize, h.defaultTtl⟩

theorem delete (h : s.Alike s') (key : String) :
    (s'.delete key).1 = (s.delete key).1 ∧ (s.delete key).2.Alike (s'.delete key).2 := by
  have herased := h.entries.erase key
  unfold Store.delete
  rw [← h.entries.contains_eq]
  cases s.entries.contains key with
  | true =>
    refine ⟨rfl, herased, h.ranking.remove key, ?_, h.maxSize, h.defaultTtl⟩
    simp only [if_true, h.statistics, herased.size_eq]
  | false => exact ⟨rfl, h⟩

theorem clear (h : s.Alike s') : s'.clear.1 = s.clear.1 ∧ s.clear.2.Alike s'.clear.2 := by
  refine ⟨h.size_eq, .rfl, h.ranking.clear, ?_, h.maxSize, h.defaultTtl⟩
  unfold Store.clear
  rw [h.statistics]

theorem drops (h : s.Alike s') (keys : List String) :
    (keys.foldl drop s).Alike (keys.foldl drop s') := by
  induction keys generalizing s s' with
  | nil => exact h
  | cons key keys ih =>
    exact ih ⟨h.entries.erase key, h.ranking.remove key, h.statistics, h.maxSize, h.defaultTtl⟩

/-- Counting what was removed leaves stores alike. -/
theorem counted (h : s.Alike s') (counters : Statistics) (n : Nat) :
    Alike { s with statistics := { counters.addExpirations n with entries := s.size } }
      { s' with statistics := { counters.addExpirations n with entries := s'.size } } := by
  refine ⟨h.entries, h.ranking, ?_, h.maxSize, h.defaultTtl⟩
  rw [h.size_eq]

theorem purge (h : s.Alike s') (now : Nat) :
    (s'.purge now).1 = (s.purge now).1 ∧ (s.purge now).2.Alike (s'.purge now).2 := by
  have hdrops := h.drops (s.expiredKeys now)
  unfold Store.purge
  rw [h.expiredKeys_eq]
  refine ⟨rfl, ?_⟩
  dsimp only
  rw [hdrops.statistics]
  exact hdrops.counted _ _

/-- No request tells stores apart that are alike. -/
theorem perform (h : s.Alike s') (now : Nat) (r : Request V) :
    (s'.perform now r).1 = (s.perform now r).1 ∧
      (s.perform now r).2.Alike (s'.perform now r).2 := by
  cases r with
  | set key value ttl? =>
    rw [perform_set, perform_set, h.defaultTtl]
    exact (h.setFor key value _ now).imp_left (congrArg Reply.evicted)
  | get key => exact (h.get key now).imp_left (congrArg Reply.found)
  | containsLive key =>
    refine ⟨?_, h⟩
    show Reply.live (s'.live? key now).isSome = Reply.live (s.live? key now).isSome
    rw [h.live?_eq]
  | delete key => exact (h.delete key).imp_left (congrArg Reply.removed)
  | clear => exact h.clear.imp_left (congrArg Reply.count)
  | purge => exact (h.purge now).imp_left (congrArg Reply.count)

/-- However they are used from now on, stores that are alike answer alike. -/
theorem run (h : s.Alike s') (now : Nat) (steps : List (Step V)) :
    (Usage.run ⟨now, s', []⟩ steps).calls = (Usage.run ⟨now, s, []⟩ steps).calls ∧
      (Usage.run ⟨now, s, []⟩ steps).store.Alike (Usage.run ⟨now, s', []⟩ steps).store := by
  generalize ([] : List (Call V)) = calls
  induction steps generalizing s s' now calls with
  | nil => exact ⟨rfl, h⟩
  | cons x steps ih =>
    obtain ⟨hreply, halike⟩ := h.perform (now + x.wait) x.request
    simp only [Usage.run, List.foldl_cons, Usage.step, hreply] at ih ⊢
    exact ih halike _ _

end Alike

end Store

end Resilience.Cache
