import Resilience.Proofs.Cache.Contents
import Resilience.Proofs.Cache.Ranking

/-!
# Coherent stores

`Store.InStep` says that a store's entries and its ranking have the same keys, and
`Store.Coherent` adds that the store is no larger than it may be and counts its entries. A write to
a full store passes through a state with one entry too few, which is in step and not coherent ; all
else goes from one coherent store to another (`Store.Coherent.perform`).

In a coherent store the ranking names a victim whenever there is an entry, so that eviction never
has to fall back on the first key stored (`Store.InStep.exists_victim`).
-/

namespace Resilience.Cache

variable {V : Type}

namespace Store

/-- The entries and the ranking have the same keys. -/
structure InStep (s : Store V) : Prop where
  ranking : s.ranking.Coherent
  contains : ∀ key, s.entries.contains key = s.ranking.contains key

/-- In step, of a size between none and at most `maxSize`, and with the entries counted. -/
structure Coherent (s : Store V) : Prop extends InStep s where
  one_le : 1 ≤ s.maxSize
  size_le : s.size ≤ s.maxSize
  entries_eq : s.statistics.entries = s.size

variable {s : Store V}

/-- A new store is coherent. -/
theorem coherent_empty (maxSize defaultTtl : Nat) (policy : Policy) :
    (empty maxSize defaultTtl policy : Store V).Coherent where
  ranking := Ranking.coherent_empty policy
  contains key := by simp [empty, Ranking.contains_eq, Ranking.empty, Ranking.rank?]
  one_le := Nat.le_max_right _ _
  size_le := by simp [empty, size]
  entries_eq := by simp [empty, size]

/-! ## One key more, one key fewer -/

/-- What a write does once there is room. -/
def insert (s : Store V) (key : String) (value : V) (ttl now : Nat) : Store V :=
  let entries := s.entries.insert key (.storedAt value (max ttl Time.shortest) now)
  { s with
    entries
    ranking := s.ranking.recordWrite key
    statistics := { s.statistics with entries := entries.size } }

theorem contains_insert (t : Std.TreeMap String (Entry V)) (key : String) (e : Entry V)
    (k : String) : (t.insert key e).contains k = (decide (key = k) || t.contains k) := by
  rw [Std.TreeMap.contains_insert, Bool.eq_iff_iff]
  simp

theorem contains_erase (t : Std.TreeMap String (Entry V)) (key k : String) :
    (t.erase key).contains k = (decide (key ≠ k) && t.contains k) := by
  rw [Std.TreeMap.contains_erase, Bool.eq_iff_iff]
  simp

/-- An entry that is inserted is ranked. -/
theorem InStep.insert (h : s.InStep) (key : String) (value : V) (ttl now : Nat) :
    (s.insert key value ttl now).InStep where
  ranking := h.ranking.recordWrite key
  contains k := by
    simp only [Store.insert]
    rw [contains_insert, Ranking.contains_recordWrite, h.contains]

/-- An entry that is dropped is ranked no more. -/
theorem InStep.drop (h : s.InStep) (key : String) : (s.drop key).InStep where
  ranking := h.ranking.remove key
  contains k := by
    simp only [Store.drop]
    rw [contains_erase, Ranking.contains_remove, h.contains]

theorem InStep.drops (h : s.InStep) (keys : List String) : (keys.foldl Store.drop s).InStep := by
  induction keys generalizing s with
  | nil => exact h
  | cons key keys ih => exact ih (h.drop key)

theorem size_insert (s : Store V) (key : String) (value : V) (ttl now : Nat) :
    (s.insert key value ttl now).size =
      if s.entries.contains key then s.size else s.size + 1 :=
  Std.TreeMap.size_insert

theorem size_drop_le (s : Store V) (key : String) : (s.drop key).size ≤ s.size :=
  Std.TreeMap.size_erase_le

theorem size_drops_le (s : Store V) (keys : List String) :
    (keys.foldl drop s).size ≤ s.size := by
  induction keys generalizing s with
  | nil => exact Nat.le_refl _
  | cons key keys ih => exact Nat.le_trans (ih (s.drop key)) (s.size_drop_le key)

/-! ## Making room -/

/-- While there is an entry there is a victim, and it is stored. -/
theorem InStep.exists_victim (h : s.InStep) (hpos : 0 < s.size) :
    ∃ victim, s.ranking.victim? = some victim ∧ s.entries.contains victim = true := by
  have hne : s.entries.isEmpty = false := by
    rw [Std.TreeMap.isEmpty_eq_size_eq_zero]
    exact beq_eq_false_iff_ne.2 (Nat.ne_of_gt hpos)
  obtain ⟨key, hkey⟩ := Std.TreeMap.isEmpty_eq_false_iff_exists_contains_eq_true.1 hne
  cases hv : s.ranking.victim? with
  | none =>
    have hnone := h.ranking.victim?_eq_none_iff.1 hv key
    rw [h.contains, Ranking.contains_eq, hnone] at hkey
    cases hkey
  | some victim =>
    obtain ⟨rank, hrank, -⟩ := h.ranking.victim?_eq_some_iff.1 hv
    refine ⟨victim, rfl, ?_⟩
    rw [h.contains, Ranking.contains_eq, hrank]
    rfl

/-- The entry given up is the victim's, which leaves the ranking with it. -/
theorem InStep.evict_eq (h : s.InStep) {victim : String} (hv : s.ranking.victim? = some victim) :
    s.evict = (some victim, { s.drop victim with statistics := s.statistics.addEviction }) := by
  unfold evict
  rw [h.ranking.popVictim_eq, hv]
  rfl

/-- A write with room to spare gives nothing up. -/
theorem setFor_of_room {key : String} (hroom : s.needsRoom key = false) (value : V)
    (ttl now : Nat) : s.setFor key value ttl now = (none, s.insert key value ttl now) := by
  unfold setFor
  rw [hroom]
  rfl

/-- A write to a full store gives up the victim of the ranking and takes its place. -/
theorem InStep.setFor_of_full (h : s.InStep) {key victim : String}
    (hfull : s.needsRoom key = true) (hv : s.ranking.victim? = some victim) (value : V)
    (ttl now : Nat) : s.setFor key value ttl now =
      (some victim,
        Store.insert { s.drop victim with statistics := s.statistics.addEviction }
          key value ttl now) := by
  unfold setFor
  rw [hfull, if_pos rfl, h.evict_eq hv]
  rfl

/-- A new key that finds the store full finds a victim, which is another key. -/
theorem Coherent.victim_of_full (h : s.Coherent) {key : String} (hfull : s.needsRoom key = true) :
    ∃ victim, s.ranking.victim? = some victim ∧ s.entries.contains victim = true ∧
      victim ≠ key := by
  rw [needsRoom, Bool.and_eq_true, Bool.not_eq_true', decide_eq_true_eq] at hfull
  obtain ⟨victim, hv, hstored⟩ := h.exists_victim (Nat.lt_of_lt_of_le h.one_le hfull.2)
  refine ⟨victim, hv, hstored, ?_⟩
  rintro rfl
  rw [hfull.1] at hstored
  cases hstored

/-! ## Every request -/

/-- A write of a new key adds an entry, up to the size. -/
theorem Coherent.size_setFor (h : s.Coherent) (key : String) (value : V) (ttl now : Nat) :
    (s.setFor key value ttl now).2.size =
      if s.entries.contains key then s.size else min (s.size + 1) s.maxSize := by
  have hsize := h.size_le
  have hone := h.one_le
  cases hroom : s.needsRoom key with
  | false =>
    rw [setFor_of_room hroom, size_insert]
    rw [needsRoom, Bool.and_eq_false_iff, Bool.not_eq_false', decide_eq_false_iff_not] at hroom
    split <;> rename_i hstored
    · rfl
    · have := hroom.resolve_left hstored
      omega
  | true =>
    obtain ⟨victim, hv, hstored, hne⟩ := h.victim_of_full hroom
    rw [needsRoom, Bool.and_eq_true, Bool.not_eq_true', decide_eq_true_eq] at hroom
    have hdrop : (s.drop victim).size = s.size - 1 := by
      show (s.entries.erase victim).size = _
      rw [Std.TreeMap.size_erase, if_pos hstored]
      rfl
    have hnew : (s.drop victim).entries.contains key = false := by
      rw [Store.drop, contains_erase, hroom.1, Bool.and_false]
    rw [h.setFor_of_full (by simp [needsRoom, hroom]) hv, size_insert, hnew, hroom.1]
    show (s.drop victim).size + 1 = min (s.size + 1) s.maxSize
    omega

/-- A write keeps a store coherent, whether it makes room or not. -/
theorem Coherent.setFor (h : s.Coherent) (key : String) (value : V) (ttl now : Nat) :
    (s.setFor key value ttl now).2.Coherent := by
  have hmax : (s.setFor key value ttl now).2.maxSize = s.maxSize :=
    congrArg Prod.fst (s.settings_setFor key value ttl now)
  have hsize := h.size_le
  refine ⟨?_, hmax ▸ h.one_le, ?_, rfl⟩
  · cases hroom : s.needsRoom key with
    | false =>
      rw [setFor_of_room hroom]
      exact h.insert key value ttl now
    | true =>
      obtain ⟨victim, hv, -⟩ := h.victim_of_full hroom
      rw [h.setFor_of_full hroom hv]
      have hdrop : Store.InStep { s.drop victim with statistics := s.statistics.addEviction } :=
        ⟨(h.drop victim).ranking, (h.drop victim).contains⟩
      exact hdrop.insert key value ttl now
  · rw [h.size_setFor, hmax]
    split <;> omega

theorem Coherent.get (h : s.Coherent) (key : String) (now : Nat) : (s.get key now).2.Coherent := by
  unfold Store.get
  split
  · refine ⟨⟨h.ranking.recordRead key, fun k => ?_⟩, h.one_le, h.size_le, h.entries_eq⟩
    show s.entries.contains k = (s.ranking.recordRead key).contains k
    rw [Ranking.contains_recordRead, h.contains]
  · exact ⟨⟨h.ranking, h.contains⟩, h.one_le, h.size_le, h.entries_eq⟩

theorem Coherent.delete (h : s.Coherent) (key : String) : (s.delete key).2.Coherent := by
  unfold Store.delete
  split
  · exact ⟨⟨(h.drop key).ranking, (h.drop key).contains⟩, h.one_le,
      Nat.le_trans (s.size_drop_le key) h.size_le, rfl⟩
  · exact h

theorem Coherent.clear (h : s.Coherent) : s.clear.2.Coherent where
  ranking := Ranking.Coherent.clear s.ranking
  contains key := by simp [Store.clear, Ranking.contains_eq]
  one_le := h.one_le
  size_le := by simp [Store.clear, size]
  entries_eq := by simp [Store.clear, size]

theorem Coherent.purge (h : s.Coherent) (now : Nat) : (s.purge now).2.Coherent := by
  have hdrops := h.drops (s.expiredKeys now)
  have hmax : ((s.expiredKeys now).foldl drop s).maxSize = s.maxSize :=
    congrArg Prod.fst (s.settings_drops _)
  refine ⟨⟨hdrops.ranking, hdrops.contains⟩, ?_, ?_, rfl⟩
  · show 1 ≤ ((s.expiredKeys now).foldl drop s).maxSize
    rw [hmax]
    exact h.one_le
  · show ((s.expiredKeys now).foldl drop s).size ≤ ((s.expiredKeys now).foldl drop s).maxSize
    rw [hmax]
    exact Nat.le_trans (s.size_drops_le _) h.size_le

/-- Whatever is asked, a coherent store stays so. -/
theorem Coherent.perform (h : s.Coherent) (now : Nat) (r : Request V) :
    (s.perform now r).2.Coherent := by
  cases r with
  | set key value ttl? =>
    rw [perform_set]
    exact h.setFor key value _ now
  | get key => exact h.get key now
  | containsLive key => exact h
  | delete key => exact h.delete key
  | clear => exact h.clear
  | purge => exact h.purge now

/-! ## The clock -/

theorem clock_drops (s : Store V) (keys : List String) :
    (keys.foldl drop s).ranking.clock = s.ranking.clock := by
  induction keys generalizing s with
  | nil => rfl
  | cons key keys ih => rw [List.foldl_cons, ih, drop, Ranking.clock_remove]

theorem clock_evict (s : Store V) : s.evict.2.ranking.clock = s.ranking.clock := by
  unfold evict Ranking.popVictim
  cases s.ranking.order.minEntry? with
  | some entry => rfl
  | none => cases s.entries.minKey? <;> rfl

/-- A request takes one tick at most. -/
theorem clock_perform_le (s : Store V) (now : Nat) (r : Request V) :
    (s.perform now r).2.ranking.clock ≤ s.ranking.clock + 1 := by
  cases r with
  | set key value ttl? =>
    rw [perform_set]
    show (s.setFor key value _ now).2.ranking.clock ≤ _
    unfold setFor
    cases s.needsRoom key with
    | false => exact Nat.le_refl _
    | true => exact Nat.le_of_eq (congrArg (· + 1) s.clock_evict)
  | get key =>
    show (s.get key now).2.ranking.clock ≤ _
    unfold Store.get
    split
    · exact s.ranking.clock_recordRead_le key
    · exact Nat.le_succ _
  | containsLive key => exact Nat.le_succ _
  | delete key =>
    show (s.delete key).2.ranking.clock ≤ _
    unfold Store.delete
    split
    · simp
    · exact Nat.le_succ _
  | clear => exact Nat.le_succ _
  | purge =>
    show ((s.expiredKeys now).foldl drop s).ranking.clock ≤ _
    rw [clock_drops]
    exact Nat.le_succ _

end Store

/-! ## Every run -/

namespace Usage

/-- However a coherent store is used, it stays coherent. -/
theorem coherent_run {u : Usage V} (h : u.store.Coherent) (steps : List (Step V)) :
    (u.run steps).store.Coherent :=
  run_of_step (P := fun u => u.store.Coherent) (fun _ x hu => hu.perform _ x.request) h steps

/-- A run takes no more ticks than it makes requests. -/
theorem clock_run_le (u : Usage V) (steps : List (Step V)) :
    (u.run steps).store.ranking.clock ≤ u.store.ranking.clock + steps.length := by
  induction steps generalizing u with
  | nil => exact Nat.le_refl _
  | cons x steps ih =>
    have hstep := u.store.clock_perform_le (u.now + x.wait) x.request
    have hrun : (u.run (x :: steps)).store.ranking.clock ≤
        (u.store.perform (u.now + x.wait) x.request).2.ranking.clock + steps.length :=
      ih (u.step x)
    rw [List.length_cons]
    omega

/-- However a new store is used, its maps and its counter stay in step, within its size, and no two
keys share a rank. A write that needs room finds a victim in the ranking, names it and leaves the
store within its size. There are no more ticks than requests. -/
theorem coherent_and_room_made (maxSize defaultTtl : Nat) (policy : Policy) (start : Nat)
    (steps : List (Step V)) :
    let s := ((fresh maxSize defaultTtl policy start : Usage V).run steps).store
    s.Coherent ∧ s.maxSize = max maxSize 1 ∧ s.ranking.clock ≤ steps.length ∧
      (∀ (a b : String) (rank : Rank),
        s.ranking.rank? a = some rank → s.ranking.rank? b = some rank → a = b) ∧
      ∀ (key : String) (value : V) (ttl now : Nat),
        (s.needsRoom key = true → ∃ victim ranking,
          s.ranking.popVictim = some (victim, ranking) ∧ s.entries.contains victim = true) ∧
        (s.setFor key value ttl now).1.isSome = s.needsRoom key ∧
        (s.setFor key value ttl now).2.size ≤ s.maxSize := by
  intro s
  have hs : s.Coherent := coherent_run (Store.coherent_empty maxSize defaultTtl policy) steps
  have hmax : s.maxSize = max maxSize 1 := congrArg Prod.fst (settings_run _ steps)
  have hclock : s.ranking.clock ≤ 0 + steps.length := clock_run_le _ steps
  refine ⟨hs, hmax, by omega, fun a b rank ha hb => hs.ranking.eq_of_rank_eq ha hb,
    fun key value ttl now => ?_⟩
  have hsize : (s.setFor key value ttl now).2.size ≤ s.maxSize := by
    have hle := (hs.setFor key value ttl now).size_le
    have hmax' : (s.setFor key value ttl now).2.maxSize = s.maxSize :=
      congrArg Prod.fst (s.settings_setFor key value ttl now)
    rwa [hmax'] at hle
  cases hroom : s.needsRoom key with
  | false =>
    refine ⟨nofun, ?_, hsize⟩
    rw [Store.setFor_of_room hroom]
    rfl
  | true =>
    obtain ⟨victim, hv, hstored, -⟩ := hs.victim_of_full hroom
    refine ⟨fun _ => ⟨victim, s.ranking.remove victim, ?_, hstored⟩, ?_, hsize⟩
    · rw [hs.ranking.popVictim_eq, hv]
      rfl
    · rw [hs.setFor_of_full hroom hv]
      rfl

end Usage

end Resilience.Cache
