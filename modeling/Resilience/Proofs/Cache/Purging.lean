import Resilience.Proofs.Cache.Likeness
import Resilience.Proofs.Cache.Sweeping

/-!
# Purges in any order

A purge goes through the entries, and a map of entries may list them in any order. Whatever the
order (`Store.purgeThrough`), the stores that come of it are alike, and so no one can tell which it
was (`Store.InStep.alike_purgeThrough`).

`Ranking.victims` gives up one tracked key after the other. Removing keys deletes them from this
sequence and leaves the order of the others as it was, so a purge does the same to the sequence in
which the entries are given up (`Store.InStep.victims_drops`).
-/

namespace Resilience.Cache

variable {V : Type}

namespace Ranking

variable {q q' : Ranking}

/-! ## Giving up one key after the other -/

theorem size_order_lt_of_popVictim {key : String} {rest : Ranking}
    (h : q.popVictim = some (key, rest)) : rest.order.size < q.order.size := by
  obtain ⟨⟨rank, key'⟩, hmin, heq⟩ := Option.map_eq_some_iff.1 h
  cases heq
  have hmem : q.order.contains rank = true := by
    rw [minEntry?_eq_head?_toList] at hmin
    have hlookup := Std.TreeMap.mem_toList_iff_getElem?_eq_some.1 (List.mem_of_mem_head? hmin)
    rw [Std.TreeMap.contains_eq_isSome_getElem?, hlookup]
    rfl
  exact Nat.lt_of_lt_of_eq (Nat.lt_succ_self _) (size_erase_add_one q.order hmem)

/-- The tracked keys, given up one after the other. -/
def victims (q : Ranking) : List String :=
  match _h : q.popVictim with
  | none => []
  | some (key, rest) => key :: rest.victims
termination_by q.order.size
decreasing_by exact size_order_lt_of_popVictim _h

/-- The keys that are popped one after the other are those of the queue, in its order. -/
theorem Coherent.victims_eq (h : q.Coherent) : q.victims = q.queue := by
  fun_induction victims q with
  | case1 q hpop =>
    rw [h.popVictim_eq, Option.map_eq_none_iff, victim?_eq_head?_queue,
      List.head?_eq_none_iff] at hpop
    exact hpop.symm
  | case2 q key rest hpop ih =>
    rw [h.popVictim_eq, Option.map_eq_some_iff] at hpop
    obtain ⟨victim, hv, heq⟩ := hpop
    cases heq
    rw [h.queue_eq_cons hv, ih (h.remove key)]

/-- Rankings that give the same ranks to the same keys are alike. -/
theorem Coherent.alike_of_rank?_eq (h : q.Coherent) (h' : q'.Coherent)
    (hpolicy : q'.policy = q.policy) (hclock : q'.clock = q.clock)
    (hrank : ∀ key, q'.rank? key = q.rank? key) : q.Alike q' where
  policy := hpolicy
  clock := hclock
  order := equiv_of_getElem?_eq fun rank => Option.ext fun key => by
    rw [h.order_iff, h'.order_iff, hrank]
  ranks := equiv_of_getElem?_eq hrank

end Ranking

namespace Store

variable {s : Store V}

/-- Removing keys deletes them from the sequence in which keys are given up. -/
theorem InStep.victims_drops (h : s.InStep) (keys : List String) :
    (keys.foldl Store.drop s).ranking.victims = s.ranking.victims.filter (· ∉ keys) := by
  have hdrops := h.drops keys
  have hrank := s.rank?_drops keys
  rw [h.ranking.victims_eq, hdrops.ranking.victims_eq,
    ← h.ranking.filter_queue_eq hdrops.ranking, List.filter_eq_self.2]
  · intro key hkey
    rw [hdrops.ranking.mem_queue, hrank] at hkey
    by_cases hmem : key ∈ keys
    · simp [hmem] at hkey
    · simpa using hmem
  · intro key hkey
    rw [hrank, if_neg (by simpa using hkey)]

/-- The same keys may be removed in any order. -/
theorem InStep.alike_drops (h : s.InStep) {keys keys' : List String} (hperm : keys.Perm keys') :
    (keys.foldl Store.drop s).Alike (keys'.foldl Store.drop s) := by
  have hsettings := (s.settings_drops keys').trans (s.settings_drops keys).symm
  simp only [settings, Prod.mk.injEq] at hsettings
  obtain ⟨hmax, httl, hpolicy⟩ := hsettings
  -- Each map is determined by what is found in it, and this does not depend on the order.
  refine ⟨equiv_of_getElem?_eq fun key => ?_, ?_, ?_, hmax, httl⟩
  · rw [getElem?_drops, getElem?_drops]
    simp only [hperm.mem_iff]
  · refine (h.drops keys).ranking.alike_of_rank?_eq (h.drops keys').ranking hpolicy ?_
      fun key => ?_
    · rw [clock_drops, clock_drops]
    · rw [rank?_drops, rank?_drops]
      simp only [hperm.mem_iff]
  · rw [statistics_drops, statistics_drops]

/-! ## Purges -/

/-- A purge that goes through the entries as they are listed. -/
def purgeThrough (s : Store V) (listing : List (String × Entry V)) (now : Nat) : Nat × Store V :=
  let expired := (listing.filter fun p => p.2.isExpiredAt now).map Prod.fst
  let s := expired.foldl drop s
  (expired.length, { s with
    statistics := { s.statistics.addExpirations expired.length with entries := s.size } })

/-- A purge goes through the entries by key. -/
theorem purge_eq (s : Store V) (now : Nat) :
    s.purge now = s.purgeThrough s.entries.toList now :=
  rfl

/-- However the entries are listed, a purge removes as many of them and leaves an alike store. -/
theorem InStep.alike_purgeThrough (h : s.InStep) {listing : List (String × Entry V)}
    (hlisting : listing.Perm s.entries.toList) (now : Nat) :
    (s.purgeThrough listing now).1 = (s.purge now).1 ∧
      (s.purge now).2.Alike (s.purgeThrough listing now).2 := by
  have hperm : ((listing.filter fun p => p.2.isExpiredAt now).map Prod.fst).Perm
      (s.expiredKeys now) := (hlisting.filter _).map Prod.fst
  have hlike := h.alike_drops hperm.symm
  refine ⟨hperm.length_eq, ?_⟩
  rw [purge_eq]
  unfold purgeThrough
  dsimp only
  rw [hlike.statistics, hperm.length_eq]
  exact hlike.counted _ _

/-- `removed` entries are gone in `s'`, those that had expired at `now`, and all else is as it
was. -/
structure Purged (s : Store V) (now removed : Nat) (s' : Store V) : Prop where
  /-- An entry that survives keeps its value, its instant of creation and its expiry. -/
  entries : ∀ key : String,
    s'.entries[key]? = (s.entries[key]?).filter fun e => decide (now ≤ e.expiresAt)
  removed_eq : removed = s.entries.toList.countP fun p => decide (p.2.expiresAt < now)
  size : removed + s'.size = s.size
  /-- The survivors are given up in the order in which they would have been given up. -/
  victims : s'.ranking.victims = s.ranking.victims.filter (s'.entries.contains ·)
  statistics : s'.statistics =
    { s.statistics with
      expirations := s.statistics.expirations + removed
      entries := s'.size }

/-- A purge removes exactly what has expired. -/
theorem Coherent.purged_purge (h : s.Coherent) (now : Nat) :
    s.Purged now (s.purge now).1 (s.purge now).2 where
  entries key := by
    rw [getElem?_purge]
    congr 1
    funext e
    rw [Entry.isExpiredAt, ← decide_not]
    exact decide_eq_decide.2 Nat.not_lt
  removed_eq := by
    show (s.expiredKeys now).length = _
    rw [expiredKeys, List.length_map, ← List.countP_eq_length_filter]
    rfl
  size := (Nat.add_comm ..).trans (s.size_purge_add now)
  victims := by
    show ((s.expiredKeys now).foldl Store.drop s).ranking.victims = _
    rw [h.victims_drops]
    refine List.filter_congr fun key hkey => ?_
    rw [h.ranking.victims_eq, h.ranking.mem_queue, ← Ranking.contains_eq,
      ← h.contains] at hkey
    show _ = ((s.expiredKeys now).foldl Store.drop s).entries.contains key
    rw [Std.TreeMap.contains_eq_isSome_getElem?, getElem?_drops]
    rw [Std.TreeMap.contains_eq_isSome_getElem?] at hkey
    by_cases hmem : key ∈ s.expiredKeys now
    · simp [hmem]
    · simp [hmem, hkey]
  statistics := s.statistics_purge now

namespace Purged

variable {s' s'' : Store V} {now removed : Nat}

/-- Which of the stores that are alike came of it makes no difference. -/
theorem of_alike (h : s.Purged now removed s') (halike : s'.Alike s'')
    (hs' : s'.ranking.Coherent) (hs'' : s''.ranking.Coherent) : s.Purged now removed s'' where
  entries key := by rw [← halike.entries.getElem?_eq, h.entries]
  removed_eq := h.removed_eq
  size := by rw [halike.size_eq, h.size]
  victims := by
    rw [hs''.victims_eq, halike.ranking.queue_eq, ← hs'.victims_eq, h.victims]
    simp only [halike.entries.contains_eq]
  statistics := by rw [halike.statistics, halike.size_eq, h.statistics]

/-- There is nothing left that a purge at the same instant would remove. -/
theorem purgeThrough_eq (h : s.Purged now removed s') {listing : List (String × Entry V)}
    (hlisting : listing.Perm s'.entries.toList) : s'.purgeThrough listing now = (0, s') := by
  have hnone : (listing.filter fun p => p.2.isExpiredAt now) = [] := by
    rw [List.filter_eq_nil_iff]
    rintro ⟨key, e⟩ hmem
    have hstored := Std.TreeMap.mem_toList_iff_getElem?_eq_some.1 (hlisting.mem_iff.1 hmem)
    rw [h.entries, Option.filter_eq_some_iff, decide_eq_true_eq] at hstored
    simpa [Entry.isExpiredAt] using hstored.2
  have hentries : s'.size = s'.statistics.entries :=
    (congrArg Statistics.entries h.statistics).symm
  unfold purgeThrough
  rw [hnone]
  simp only [List.map_nil, List.foldl_nil, List.length_nil, Statistics.addExpirations,
    Nat.add_zero, hentries]

end Purged

end Store

/-- However a store got where it is, a purge at any instant, and in whatever order the entries are
listed to it, removes exactly those that have expired and leaves the others with their values, their
expiries and their places in the sequence of victims. It counts what it removed and nothing else,
and a second purge at that instant finds nothing to do. No request later on tells in which order the
entries were listed. -/
theorem Usage.purge_exact_in_any_order (maxSize defaultTtl : Nat) (policy : Policy) (start : Nat)
    (steps : List (Step V)) (now : Nat) (listing : List (String × Entry V))
    (hlisting : listing.Perm
      ((fresh maxSize defaultTtl policy start : Usage V).run steps).store.entries.toList) :
    let s := ((fresh maxSize defaultTtl policy start : Usage V).run steps).store
    let removed := (s.purgeThrough listing now).1
    let s' := (s.purgeThrough listing now).2
    s.Purged now removed s' ∧
      (∀ listing', listing'.Perm s'.entries.toList → s'.purgeThrough listing' now = (0, s')) ∧
      removed = (s.purge now).1 ∧ (s.purge now).2.Alike s' ∧
      ∀ (time : Nat) (later : List (Step V)),
        (Usage.run ⟨time, s', []⟩ later).calls =
          (Usage.run ⟨time, (s.purge now).2, []⟩ later).calls := by
  intro s removed s'
  have hs : s.Coherent := coherent_run (Store.coherent_empty maxSize defaultTtl policy) steps
  obtain ⟨hremoved, halike⟩ := hs.alike_purgeThrough hlisting now
  have hpurged : s.Purged now removed s' := by
    show s.Purged now (s.purgeThrough listing now).1 s'
    rw [hremoved]
    exact (hs.purged_purge now).of_alike halike (hs.purge now).ranking
      (hs.drops _).ranking
  exact ⟨hpurged, fun _ hl => hpurged.purgeThrough_eq hl, hremoved, halike,
    fun time later => (halike.run time later).1⟩

/-- Two of four entries have expired, and the last key comes first in the listing. -/
theorem Usage.purge_exact_from_the_last_key :
    let short := some Time.millisecond
    let steps : List (Step Nat) := [⟨0, .set "a" 1 short⟩, ⟨0, .set "b" 2 none⟩,
      ⟨0, .set "c" 3 short⟩, ⟨0, .set "d" 4 none⟩, ⟨0, .get "b"⟩]
    let s := ((fresh 4 Time.second .lru 0 : Usage Nat).run steps).store
    let s' := (s.purgeThrough s.entries.toList.reverse (2 * Time.millisecond)).2
    s.entries.toList.reverse.Perm s.entries.toList ∧
      s.ranking.victims = ["a", "c", "d", "b"] ∧
      s.Purged (2 * Time.millisecond) 2 s' ∧ s'.ranking.victims = ["d", "b"] ∧
      s'.purgeThrough s'.entries.toList.reverse (2 * Time.millisecond) = (0, s') := by
  intro short steps s s'
  have hlisting : s.entries.toList.reverse.Perm s.entries.toList := List.reverse_perm _
  obtain ⟨hpurged, hagain, -, -, -⟩ := purge_exact_in_any_order 4 Time.second .lru 0 steps
    (2 * Time.millisecond) _ hlisting
  have hremoved : (s.purgeThrough s.entries.toList.reverse (2 * Time.millisecond)).1 = 2 := by
    decide +kernel
  rw [hremoved] at hpurged
  have hs : s.Coherent := coherent_run (Store.coherent_empty 4 Time.second .lru) steps
  have hvictims : s.ranking.victims = ["a", "c", "d", "b"] :=
    hs.ranking.victims_eq.trans (by decide +kernel)
  have hsurvivors : ["a", "c", "d", "b"].filter (s'.entries.contains ·) = ["d", "b"] := by
    decide +kernel
  refine ⟨hlisting, hvictims, hpurged, ?_, hagain _ (List.reverse_perm _)⟩
  exact (hpurged.victims.trans (congrArg _ hvictims)).trans hsurvivors

end Resilience.Cache
