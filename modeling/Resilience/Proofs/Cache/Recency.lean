import Mathlib.Tactic.SplitIfs
import Resilience.Proofs.Cache.Coherence

/-!
# Stores ordered by recency

A store that gives up the key least recently used counts no reads, so its keys are ordered by their
ticks alone (`Store.Recent`). For each request there is an equation for the rank of a key
afterwards : the key written, or read with a hit, has the next tick, the keys removed have none and
the others keep theirs.

Then, for a store of any policy, what a request does to the number of entries and of hits. A purge
takes out as many entries as there are expired keys (`Store.size_purge_add`), and only a read that
hits is counted as a hit (`Store.hits_perform`).
-/

namespace Resilience.Cache

variable {V : Type}

/-- Whether a reply is that of a read that hits. -/
def Reply.isHit : Reply V → Bool
  | .found value? => value?.isSome
  | _ => false

namespace Store

/-- A coherent store that gives up the key least recently used, and so counts no reads. -/
structure Recent (s : Store V) : Prop extends Coherent s where
  policy_eq : s.ranking.policy = .lru
  reads_eq : ∀ key rank, s.ranking.rank? key = some rank → rank.reads = 0

variable {s : Store V}

theorem recent_empty (maxSize defaultTtl : Nat) :
    (empty maxSize defaultTtl .lru : Store V).Recent where
  toCoherent := coherent_empty maxSize defaultTtl .lru
  policy_eq := rfl
  reads_eq key rank h := by simp [empty, Ranking.empty, Ranking.rank?] at h

/-- The victim has the least tick. -/
theorem Recent.tick_lt_of_victim (h : s.Recent) {victim key : String} {rank : Rank}
    (hv : s.ranking.victim? = some victim) (hrank : s.ranking.rank? key = some rank)
    (hne : key ≠ victim) :
    ∃ r, s.ranking.rank? victim = some r ∧ r.tick < rank.tick := by
  obtain ⟨r, hr, hleast⟩ := h.ranking.victim?_eq_some_iff.1 hv
  have hlt := Rank.compare_eq_lt_iff.1 (hleast key rank hrank hne)
  have hr0 := h.reads_eq victim r hr
  have hrank0 := h.reads_eq key rank hrank
  exact ⟨r, hr, by omega⟩

/-- The keys with an entry are those with a rank. -/
theorem Recent.stored_iff (h : s.Recent) (key : String) :
    (∃ e, s.entries[key]? = some e) ↔ ∃ rank, s.ranking.rank? key = some rank := by
  rw [← Option.isSome_iff_exists, ← Option.isSome_iff_exists,
    ← Std.TreeMap.contains_eq_isSome_getElem?, h.contains, Ranking.contains_eq]

theorem Recent.rank?_eq_none (h : s.Recent) {key : String} (hkey : s.entries[key]? = none) :
    s.ranking.rank? key = none := by
  rw [Option.eq_none_iff_forall_ne_some]
  intro rank hrank
  obtain ⟨e, he⟩ := (h.stored_iff key).2 ⟨rank, hrank⟩
  rw [hkey] at he
  cases he

/-! ## Ranks after a request -/

/-- The key written has the next tick and the key given up is gone. The others keep their ranks. -/
theorem Recent.rank?_setFor (h : s.Recent) (key : String) (value : V) (ttl now : Nat)
    (k : String) : (s.setFor key value ttl now).2.ranking.rank? k =
      if key = k then some ⟨0, s.ranking.clock + 1⟩
      else if (s.setFor key value ttl now).1 = some k then none
      else s.ranking.rank? k := by
  have written : ∀ q : Ranking, q.policy = .lru → q.clock = s.ranking.clock →
      (q.recordWrite key).rank? k =
        if key = k then some ⟨0, s.ranking.clock + 1⟩ else q.rank? k := by
    intro q hpolicy hclock
    by_cases hk : key = k
    · subst hk
      rw [if_pos rfl, q.rank?_recordWrite_self, hclock, hpolicy]
      cases q.rank? key <;> rfl
    · rw [if_neg hk, q.rank?_recordWrite_of_ne hk]
  cases hroom : s.needsRoom key with
  | false =>
    rw [setFor_of_room hroom]
    simpa [Store.insert] using written s.ranking h.policy_eq rfl
  | true =>
    obtain ⟨victim, hv, -, -⟩ := h.victim_of_full hroom
    rw [h.setFor_of_full hroom hv]
    have := written (s.ranking.remove victim) (by simp [h.policy_eq]) (by simp)
    simpa [Store.insert, Store.drop, Ranking.rank?_remove] using this

/-- A read that hits gives the key the next tick. A read that misses changes no rank. -/
theorem Recent.rank?_get (h : s.Recent) (key : String) (now : Nat) (k : String) :
    (s.get key now).2.ranking.rank? k =
      if key = k ∧ s.containsLive key now = true then some ⟨0, s.ranking.clock + 1⟩
      else s.ranking.rank? k := by
  unfold Store.get containsLive
  cases hlive : s.live? key now with
  | none => simp
  | some v =>
    by_cases hk : key = k
    · subst hk
      obtain ⟨e, he, -, -⟩ := (s.live?_eq_some_iff key now v).1 hlive
      obtain ⟨rank, hrank⟩ := (h.stored_iff key).1 ⟨e, he⟩
      simp [s.ranking.rank?_recordRead_self, hrank, h.policy_eq, Policy.rankAfterRead]
    · simp [hk, s.ranking.rank?_recordRead_of_ne hk]

theorem rank?_delete (h : s.InStep) (key k : String) :
    (s.delete key).2.ranking.rank? k = if key = k then none else s.ranking.rank? k := by
  unfold Store.delete
  split <;> rename_i hstored
  · exact s.ranking.rank?_remove key k
  · by_cases hk : key = k
    · subst hk
      rw [h.contains, Ranking.contains_eq] at hstored
      simpa using hstored
    · rw [if_neg hk]

theorem rank?_drops (s : Store V) (keys : List String) (k : String) :
    (keys.foldl drop s).ranking.rank? k = if k ∈ keys then none else s.ranking.rank? k := by
  induction keys generalizing s with
  | nil => simp
  | cons key keys ih =>
    rw [List.foldl_cons, ih, drop, Ranking.rank?_remove]
    by_cases hk : k ∈ keys
    · simp [hk]
    · simp [hk, eq_comm]

/-- A key is untracked after a request, or has its rank from before, or the next tick. -/
theorem Recent.rank?_perform (h : s.Recent) (now : Nat) (r : Request V) (k : String) :
    (s.perform now r).2.ranking.rank? k = none ∨
      (s.perform now r).2.ranking.rank? k = s.ranking.rank? k ∨
      (s.perform now r).2.ranking.rank? k = some ⟨0, s.ranking.clock + 1⟩ := by
  cases r with
  | set key value ttl? =>
    rw [perform_set]
    show (s.setFor key value _ now).2.ranking.rank? k = none ∨ _
    rw [Prod.map_snd, id, h.rank?_setFor]
    split_ifs <;> simp
  | get key =>
    show (s.get key now).2.ranking.rank? k = none ∨ (s.get key now).2.ranking.rank? k = _ ∨
      (s.get key now).2.ranking.rank? k = _
    rw [h.rank?_get]
    split_ifs <;> simp
  | containsLive key => exact Or.inr (Or.inl rfl)
  | delete key =>
    show (s.delete key).2.ranking.rank? k = none ∨ (s.delete key).2.ranking.rank? k = _ ∨ _
    rw [rank?_delete h.toInStep]
    split_ifs <;> simp
  | clear => exact Or.inl (s.ranking.rank?_clear k)
  | purge =>
    show ((s.expiredKeys now).foldl drop s).ranking.rank? k = none ∨
      ((s.expiredKeys now).foldl drop s).ranking.rank? k = _ ∨ _
    rw [rank?_drops]
    split_ifs <;> simp

/-- Whatever is asked of a store by recency leaves it one. -/
theorem Recent.perform (h : s.Recent) (now : Nat) (r : Request V) :
    (s.perform now r).2.Recent where
  toCoherent := h.toCoherent.perform now r
  policy_eq := (congrArg (·.2.2) (s.settings_perform now r)).trans h.policy_eq
  reads_eq key rank hrank := by
    rcases h.rank?_perform now r key with hnone | hsame | hnext
    · rw [hnone] at hrank
      cases hrank
    · exact h.reads_eq key rank (hsame ▸ hrank)
    · rw [hnext] at hrank
      cases hrank
      rfl

/-! ## Sizes after a request -/

theorem size_delete (s : Store V) (key : String) : (s.delete key).2.size =
    if s.entries.contains key then s.size - 1 else s.size := by
  unfold Store.delete
  split <;> rename_i hstored
  · show (s.entries.erase key).size = _
    rw [Std.TreeMap.size_erase, if_pos hstored]
    rfl
  · rfl

theorem size_drop_add {key : String} (h : s.entries.contains key = true) :
    (s.drop key).size + 1 = s.size :=
  size_erase_add_one s.entries h

/-- Every key that is dropped, if it was stored, makes the store smaller by one. -/
theorem size_drops_add (s : Store V) {keys : List String} (hnodup : keys.Nodup)
    (hstored : ∀ key ∈ keys, s.entries.contains key = true) :
    (keys.foldl drop s).size + keys.length = s.size := by
  induction keys generalizing s with
  | nil => rfl
  | cons key keys ih =>
    obtain ⟨hnotin, hnodup⟩ := List.nodup_cons.1 hnodup
    have hkey : s.entries.contains key = true := hstored key (by simp)
    have hothers : ∀ k ∈ keys, (s.drop key).entries.contains k = true := by
      intro k hk
      have hne : key ≠ k := fun h => hnotin (h ▸ hk)
      rw [drop, contains_erase, hstored k (List.mem_cons_of_mem _ hk)]
      simp [hne]
    have hsize := size_drop_add hkey
    have hrest := ih (s.drop key) hnodup hothers
    rw [List.foldl_cons, List.length_cons]
    omega

/-- No key is listed as expired twice. -/
theorem nodup_expiredKeys (s : Store V) (now : Nat) : (s.expiredKeys now).Nodup := by
  have hkeys : s.entries.keys.Nodup := Std.TreeMap.nodup_keys
  rw [← Std.TreeMap.map_fst_toList_eq_keys] at hkeys
  exact hkeys.sublist (List.filter_sublist.map Prod.fst)

/-- A purge makes the store smaller by the number of expired keys. -/
theorem size_purge_add (s : Store V) (now : Nat) :
    (s.purge now).2.size + (s.expiredKeys now).length = s.size := by
  refine s.size_drops_add (s.nodup_expiredKeys now) fun key hkey => ?_
  obtain ⟨e, he, -⟩ := (s.mem_expiredKeys now key).1 hkey
  rw [Std.TreeMap.contains_eq_isSome_getElem?, he]
  rfl

/-! ## Counters after a request -/

/-- Keys dropped change none of the counters. -/
theorem statistics_drops (s : Store V) (keys : List String) :
    (keys.foldl drop s).statistics = s.statistics := by
  induction keys generalizing s with
  | nil => rfl
  | cons key keys ih => exact ih (s.drop key)

/-- A purge counts the expired keys and the entries that are left. -/
theorem statistics_purge (s : Store V) (now : Nat) : (s.purge now).2.statistics =
    { s.statistics.addExpirations (s.expiredKeys now).length with
      entries := (s.purge now).2.size } := by
  rw [← s.statistics_drops (s.expiredKeys now)]
  rfl

/-- Giving up an entry counts as an eviction and as nothing else. -/
theorem count_evict (f : Statistics → Nat) (hf : ∀ c, f c.addEviction = f c) (s : Store V) :
    f s.evict.2.statistics = f s.statistics := by
  unfold evict
  cases s.ranking.popVictim with
  | some popped => exact hf _
  | none =>
    cases s.entries.minKey? with
    | some key => exact hf _
    | none => rfl

/-- A request counts a hit if it is a read that hits. -/
theorem hits_perform (s : Store V) (now : Nat) (r : Request V) :
    (s.perform now r).2.statistics.hits =
      s.statistics.hits + (s.perform now r).1.isHit.toNat := by
  cases r with
  | set key value ttl? =>
    rw [perform_set]
    show (s.setFor key value _ now).2.statistics.hits = _
    unfold setFor
    cases s.needsRoom key with
    | false => rfl
    | true => exact count_evict Statistics.hits (fun _ => rfl) s
  | get key =>
    simp only [perform, Store.get]
    cases s.live? key now <;> rfl
  | containsLive key => rfl
  | delete key =>
    simp only [perform, Store.delete]
    split <;> rfl
  | clear => rfl
  | purge =>
    show (s.purge now).2.statistics.hits = _
    rw [s.statistics_purge now]
    rfl

end Store

end Resilience.Cache
