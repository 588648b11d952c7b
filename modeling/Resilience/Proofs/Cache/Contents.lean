import Resilience.Proofs.Cache.Usage

/-!
# What a request does to the entries

One equation for each operation : what is stored under a key afterwards, in terms of what was
stored before and of the answer. None of them depends on the ranking, which only decides which key
a write answers as given up (`Store.getElem?_setFor`). No request changes the settings of a store
(`Store.settings_perform`).
-/

namespace Resilience.Cache

variable {V : Type}

namespace Store

variable (s : Store V)

/-! ## Reading -/

/-- A live value is that of an entry that has not expired. -/
theorem live?_eq_some_iff (key : String) (now : Nat) (value : V) :
    s.live? key now = some value ↔
      ∃ e, s.entries[key]? = some e ∧ now ≤ e.expiresAt ∧ e.value = value := by
  unfold live?
  cases s.entries[key]? with
  | none => simp
  | some e =>
    by_cases he : e.expiresAt < now
    · simp [Entry.isExpiredAt, he, Nat.not_le_of_lt he]
    · simp [Entry.isExpiredAt, he, Nat.le_of_not_lt he]

theorem fst_get (key : String) (now : Nat) : (s.get key now).1 = s.live? key now := by
  unfold get
  split <;> rename_i h
  · exact h.symm
  · exact h.symm

theorem entries_get (key : String) (now : Nat) : (s.get key now).2.entries = s.entries := by
  unfold get
  split <;> rfl

/-! ## Writing -/

/-- The key given up is erased, and no other. -/
theorem getElem?_evict (k : String) :
    s.evict.2.entries[k]? = if s.evict.1 = some k then none else s.entries[k]? := by
  have erased : ∀ victim : String, (s.entries.erase victim)[k]? =
      if some victim = some k then none else s.entries[k]? := by
    intro victim
    simp only [Std.TreeMap.getElem?_erase, Std.compare_eq_iff_eq, Option.some.injEq]
  unfold evict
  cases s.ranking.popVictim with
  | some popped => exact erased popped.1
  | none =>
    cases s.entries.minKey? with
    | some key => exact erased key
    | none => rfl

/-- After a write its key holds the new entry, the key given up holds none, and the others hold what
they did. -/
theorem getElem?_setFor (key : String) (value : V) (ttl now : Nat) (k : String) :
    (s.setFor key value ttl now).2.entries[k]? =
      if key = k then some (.storedAt value (max ttl Time.shortest) now)
      else if (s.setFor key value ttl now).1 = some k then none
      else s.entries[k]? := by
  unfold setFor
  cases s.needsRoom key with
  | false => simp [Std.TreeMap.getElem?_insert]
  | true => simp [Std.TreeMap.getElem?_insert, getElem?_evict]

/-! ## Removing -/

theorem getElem?_drop (key k : String) :
    (s.drop key).entries[k]? = if key = k then none else s.entries[k]? := by
  simp only [drop, Std.TreeMap.getElem?_erase, Std.compare_eq_iff_eq]

theorem getElem?_drops (keys : List String) (k : String) :
    (keys.foldl drop s).entries[k]? = if k ∈ keys then none else s.entries[k]? := by
  induction keys generalizing s with
  | nil => simp
  | cons key keys ih =>
    rw [List.foldl_cons, ih, getElem?_drop]
    by_cases hk : k ∈ keys
    · simp [hk]
    · simp [hk, eq_comm]

theorem getElem?_delete (key k : String) :
    (s.delete key).2.entries[k]? = if key = k then none else s.entries[k]? := by
  unfold delete
  split <;> rename_i hstored
  · exact s.getElem?_drop key k
  · by_cases hk : key = k
    · subst hk
      rw [Std.TreeMap.contains_eq_isSome_getElem?] at hstored
      simpa using hstored
    · rw [if_neg hk]

/-- The expired keys are those of the entries that have expired. -/
theorem mem_expiredKeys (now : Nat) (k : String) :
    k ∈ s.expiredKeys now ↔ ∃ e, s.entries[k]? = some e ∧ e.isExpiredAt now = true := by
  simp only [expiredKeys, List.mem_map, List.mem_filter, Prod.exists]
  constructor
  · rintro ⟨k', e, ⟨hmem, he⟩, rfl⟩
    exact ⟨e, Std.TreeMap.mem_toList_iff_getElem?_eq_some.1 hmem, he⟩
  · rintro ⟨e, hk, he⟩
    exact ⟨k, e, ⟨Std.TreeMap.mem_toList_iff_getElem?_eq_some.2 hk, he⟩, rfl⟩

/-- A purge removes what has expired, and nothing else. -/
theorem getElem?_purge (now : Nat) (k : String) :
    (s.purge now).2.entries[k]? = (s.entries[k]?).filter fun e => !e.isExpiredAt now := by
  show ((s.expiredKeys now).foldl drop s).entries[k]? = _
  rw [getElem?_drops]
  cases hk : s.entries[k]? with
  | none => simp
  | some e =>
    have hmem := s.mem_expiredKeys now k
    by_cases he : e.isExpiredAt now = true
    · rw [if_pos (hmem.2 ⟨e, hk, he⟩)]
      simp [Option.filter, he]
    · have hnot : k ∉ s.expiredKeys now := by
        rw [hmem, hk]
        rintro ⟨e', he', hexpired⟩
        exact he (Option.some.inj he' ▸ hexpired)
      rw [if_neg hnot]
      simp [Option.filter, he]

/-! ## The settings -/

/-- What a store was made with. -/
def settings (s : Store V) : Nat × Nat × Policy := (s.maxSize, s.defaultTtl, s.ranking.policy)

theorem settings_evict : s.evict.2.settings = s.settings := by
  unfold evict Ranking.popVictim settings
  cases s.ranking.order.minEntry? with
  | some entry => rfl
  | none => cases s.entries.minKey? <;> rfl

theorem settings_setFor (key : String) (value : V) (ttl now : Nat) :
    (s.setFor key value ttl now).2.settings = s.settings := by
  unfold setFor
  cases s.needsRoom key with
  | false => rfl
  | true => exact s.settings_evict

theorem settings_get (key : String) (now : Nat) : (s.get key now).2.settings = s.settings := by
  unfold get
  split
  · unfold settings Ranking.recordRead
    split <;> rfl
  · rfl

theorem settings_drop (key : String) : (s.drop key).settings = s.settings := by
  unfold settings drop Ranking.remove
  dsimp only
  split <;> rfl

theorem settings_drops (keys : List String) : (keys.foldl drop s).settings = s.settings := by
  induction keys generalizing s with
  | nil => rfl
  | cons key keys ih => rw [List.foldl_cons, ih, settings_drop]

theorem settings_delete (key : String) : (s.delete key).2.settings = s.settings := by
  unfold delete
  split
  · exact s.settings_drop key
  · rfl

/-- Nothing that is asked of a store changes its settings. -/
theorem settings_perform (now : Nat) (r : Request V) :
    (s.perform now r).2.settings = s.settings := by
  cases r with
  | set key value ttl? =>
    rw [perform_set]
    exact s.settings_setFor key value _ now
  | get key => exact s.settings_get key now
  | containsLive key => rfl
  | delete key => exact s.settings_delete key
  | clear => rfl
  | purge => exact s.settings_drops (s.expiredKeys now)

end Store

theorem Usage.settings_run (u : Usage V) (steps : List (Step V)) :
    (u.run steps).store.settings = u.store.settings :=
  run_of_step (P := fun u' => u'.store.settings = u.store.settings)
    (fun u x hu => (u.store.settings_perform _ x.request).trans hu) rfl steps

end Resilience.Cache
