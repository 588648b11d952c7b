import Resilience.Cache.Ranking

/-!
# Coherent rankings

A ranking keeps its pairs twice, by key and by rank. `Ranking.Coherent` says that the two maps
hold the same pairs and that no tick lies ahead of the clock. Every operation keeps it : a new rank
carries a tick that no rank has yet (`Coherent.place`), and taking out the victim is removing it
(`Coherent.popVictim_eq`).

`Ranking.queue` lists the tracked keys by rank, which is the order in which they are given up.
Removing keys leaves the order of the others as it was (`Coherent.queue_remove`), and so does a
first write of another key (`Coherent.filter_queue_recordWrite`).
-/

namespace Resilience.Cache

/-! ## Maps as sorted lists -/

section Sorted

variable {α β : Type} {cmp : α → α → Ordering} (t : Std.TreeMap α β cmp)

/-- The entry with the least key is the first in the list of entries. -/
theorem minEntry?_eq_head?_toList : t.minEntry? = t.toList.head? := by
  have impl : ∀ l : Std.DTreeMap.Internal.Impl α fun _ => β,
      Std.DTreeMap.Internal.Impl.Const.minEntry? l =
        (Std.DTreeMap.Internal.Impl.Const.toList l).head? := by
    intro l
    rw [Std.DTreeMap.Internal.Impl.Const.toList_eq_toListModel_map]
    fun_induction Std.DTreeMap.Internal.Impl.Const.minEntry? l with
    | case1 => rfl
    | case2 => simp
    | case3 _ _ _ _ _ _ _ _ _ ih => simp [ih]
  exact impl t.inner.inner

theorem nodup_of_pairwise_lt [Std.LawfulEqCmp cmp] {l : List (α × β)}
    (h : l.Pairwise fun a b => cmp a.1 b.1 = .lt) : l.Nodup := by
  refine h.imp fun {a b} hab heq => ?_
  have hrefl : cmp b.1 b.1 = .eq := Std.ReflCmp.compare_self
  rw [heq, hrefl] at hab
  cases hab

variable [Std.TransCmp cmp] [Std.LawfulEqCmp cmp]

/-- A list sorted by key is determined by its pairs. -/
theorem eq_of_pairwise_lt {l m : List (α × β)} (hl : l.Pairwise fun a b => cmp a.1 b.1 = .lt)
    (hm : m.Pairwise fun a b => cmp a.1 b.1 = .lt) (h : ∀ p, p ∈ l ↔ p ∈ m) : l = m := by
  have hperm : l.Perm m :=
    (List.perm_ext_iff_of_nodup (nodup_of_pairwise_lt hl) (nodup_of_pairwise_lt hm)).2 h
  refine hperm.eq_of_pairwise (fun a b _ _ hab hba => ?_) hl hm
  have hswap : cmp a.1 b.1 = (cmp b.1 a.1).swap := Std.OrientedCmp.eq_swap
  rw [hswap, hba] at hab
  cases hab

omit [Std.LawfulEqCmp cmp] in
/-- Erasing a key that is there leaves one fewer. -/
theorem size_erase_add_one {k : α} (h : t.contains k = true) : (t.erase k).size + 1 = t.size := by
  have hpos : 0 < t.size := by
    rw [Nat.pos_iff_ne_zero, ← beq_eq_false_iff_ne, ← Std.TreeMap.isEmpty_eq_size_eq_zero]
    exact Std.TreeMap.isEmpty_eq_false_iff_exists_contains_eq_true.2 ⟨k, h⟩
  rw [Std.TreeMap.size_erase, if_pos h]
  exact Nat.sub_add_cancel hpos

end Sorted

/-- Ranks are compared by their reads, and where these are equal by their ticks. -/
theorem Rank.compare_eq_lt_iff {a b : Rank} :
    compare a b = .lt ↔ a.reads < b.reads ∨ a.reads = b.reads ∧ a.tick < b.tick := by
  show (compareOn Rank.reads a b).then (compareOn Rank.tick a b) = .lt ↔ _
  simp [compareOn, Ordering.then_eq_lt, Nat.compare_eq_lt]

namespace Ranking

/-- The two maps hold the same pairs, and no tick lies ahead of the clock. -/
structure Coherent (q : Ranking) : Prop where
  order_iff : ∀ (rank : Rank) (key : String), q.order[rank]? = some key ↔ q.rank? key = some rank
  tick_le : ∀ (key : String) (rank : Rank), q.rank? key = some rank → rank.tick ≤ q.clock

/-- The tracked keys by rank, least first. -/
def queue (q : Ranking) : List String := q.order.toList.map Prod.snd

theorem contains_eq (q : Ranking) (key : String) : q.contains key = (q.rank? key).isSome :=
  Std.TreeMap.contains_eq_isSome_getElem?

theorem rank?_place (q : Ranking) (key : String) (old : Option Rank) (rank : Rank) (k : String) :
    (q.place key old rank).rank? k = if key = k then some rank else q.rank? k := by
  simp only [rank?, place, Std.TreeMap.getElem?_insert, Std.compare_eq_iff_eq]

theorem rank?_remove (q : Ranking) (key k : String) :
    (q.remove key).rank? k = if key = k then none else q.rank? k := by
  unfold remove
  cases hkey : q.rank? key with
  | none =>
    by_cases hk : key = k
    · rw [if_pos hk, ← hk, hkey]
    · rw [if_neg hk]
  | some rank => simp only [rank?, Std.TreeMap.getElem?_erase, Std.compare_eq_iff_eq]

/-- A ranking without keys is coherent. -/
theorem coherent_empty (policy : Policy) : (empty policy).Coherent where
  order_iff rank key := by simp [empty, rank?]
  tick_le key rank h := by simp [empty, rank?] at h

variable {q : Ranking}

/-- No two keys share a rank. -/
theorem Coherent.eq_of_rank_eq (h : q.Coherent) {a b : String} {rank : Rank}
    (ha : q.rank? a = some rank) (hb : q.rank? b = some rank) : a = b := by
  have hab := (h.order_iff rank a).2 ha
  rw [(h.order_iff rank b).2 hb] at hab
  exact (Option.some.inj hab).symm

/-- With the rank of `key` erased, the order holds the pairs of the other keys. -/
theorem Coherent.erase_iff (h : q.Coherent) {key : String} {old : Rank}
    (hold : q.rank? key = some old) (rank : Rank) (k : String) :
    (q.order.erase old)[rank]? = some k ↔ key ≠ k ∧ q.rank? k = some rank := by
  simp only [Std.TreeMap.getElem?_erase, Std.compare_eq_iff_eq, ← h.order_iff]
  by_cases hr : old = rank
  · subst hr
    simp [(h.order_iff old key).2 hold]
  · have hne : q.order[rank]? = some k → key ≠ k := by
      rintro hk rfl
      exact hr (Option.some.inj (hold.symm.trans ((h.order_iff rank key).1 hk)))
    simpa [hr] using hne

/-! ## One operation -/

/-- A key may be given any rank that no other key has. -/
theorem Coherent.place (h : q.Coherent) {key : String} {rank : Rank} (htick : rank.tick ≤ q.clock)
    (hfree : ∀ other, q.rank? other = some rank → other = key) :
    (q.place key (q.rank? key) rank).Coherent where
  order_iff r k := by
    have others : ((q.rank? key).elim q.order q.order.erase)[r]? = some k ↔
        key ≠ k ∧ q.rank? k = some r := by
      cases hkey : q.rank? key with
      | none =>
        have hne : q.rank? k = some r → key ≠ k := by
          rintro hk rfl
          rw [hkey] at hk
          cases hk
        simpa [h.order_iff] using hne
      | some old => exact h.erase_iff hkey r k
    rw [rank?_place]
    simp only [Ranking.place, Std.TreeMap.getElem?_insert, Std.compare_eq_iff_eq]
    by_cases hr : rank = r
    · subst hr
      by_cases hk : key = k
      · simp [hk]
      · simpa [hk] using fun hrank => hk (hfree k hrank).symm
    · rw [if_neg hr, others]
      by_cases hk : key = k
      · simp [hr, hk]
      · simp [hk]
  tick_le k r hk := by
    rw [rank?_place] at hk
    split at hk
    · exact Option.some.inj hk ▸ htick
    · exact h.tick_le k r hk

/-- The clock may run on. -/
theorem Coherent.ticked (h : q.Coherent) : Coherent { q with clock := q.clock + 1 } where
  order_iff := h.order_iff
  tick_le key rank hk := Nat.le_succ_of_le (h.tick_le key rank hk)

/-- A rank with the next tick is free, and so is the rank that the key has. -/
theorem Coherent.place_next (h : q.Coherent) {key : String} {rank : Rank}
    (hrank : rank.tick = q.clock + 1 ∨ q.rank? key = some rank) :
    (Ranking.place { q with clock := q.clock + 1 } key (q.rank? key) rank).Coherent := by
  refine h.ticked.place ?_ fun other hother => ?_
  · rcases hrank with hrank | hrank
    · exact Nat.le_of_eq hrank
    · exact h.ticked.tick_le key rank hrank
  · rcases hrank with hrank | hrank
    · have := h.tick_le other rank hother
      omega
    · exact h.eq_of_rank_eq hother hrank

/-- A write keeps a ranking coherent, since the tick it takes is new. -/
theorem Coherent.recordWrite (h : q.Coherent) (key : String) : (q.recordWrite key).Coherent := by
  unfold Ranking.recordWrite
  refine h.place_next ?_
  cases hkey : q.rank? key with
  | none => exact Or.inl rfl
  | some rank =>
    cases q.policy with
    | lru => exact Or.inl rfl
    | fifo => exact Or.inr rfl
    | lfu => exact Or.inl rfl

theorem Coherent.recordRead (h : q.Coherent) (key : String) : (q.recordRead key).Coherent := by
  unfold Ranking.recordRead
  cases hkey : q.rank? key with
  | none => exact h
  | some rank =>
    dsimp only
    rw [← hkey]
    refine h.place_next ?_
    cases q.policy with
    | lru => exact Or.inl rfl
    | fifo => exact Or.inr hkey
    | lfu => exact Or.inl rfl

theorem Coherent.remove (h : q.Coherent) (key : String) : (q.remove key).Coherent where
  order_iff rank k := by
    rw [rank?_remove]
    unfold Ranking.remove
    cases hkey : q.rank? key with
    | none =>
      rw [h.order_iff]
      by_cases hk : key = k
      · simp [← hk, hkey]
      · rw [if_neg hk]
    | some old =>
      rw [h.erase_iff hkey]
      by_cases hk : key = k
      · simp [hk]
      · simp [hk]
  tick_le k rank hk := by
    rw [rank?_remove] at hk
    have hclock : (q.remove key).clock = q.clock := by
      unfold Ranking.remove
      split <;> rfl
    split at hk
    · cases hk
    · exact hclock ▸ h.tick_le k rank hk

theorem Coherent.clear (q : Ranking) : q.clear.Coherent where
  order_iff rank key := by simp [Ranking.clear, rank?]
  tick_le key rank h := by simp [Ranking.clear, rank?] at h

/-! ## The victim -/

/-- The victim is the first key of the queue. -/
theorem victim?_eq_head?_queue (q : Ranking) : q.victim? = q.queue.head? := by
  rw [victim?, minEntry?_eq_head?_toList, queue, List.head?_map]

/-- The two maps hold the same pairs. -/
theorem Coherent.mem_order (h : q.Coherent) {rank : Rank} {key : String} :
    (rank, key) ∈ q.order.toList ↔ q.rank? key = some rank := by
  rw [Std.TreeMap.mem_toList_iff_getElem?_eq_some, h.order_iff]

/-- The queue holds the tracked keys. -/
theorem Coherent.mem_queue (h : q.Coherent) {key : String} :
    key ∈ q.queue ↔ (q.rank? key).isSome := by
  rw [queue, List.mem_map, Option.isSome_iff_exists]
  constructor
  · rintro ⟨⟨rank, k⟩, hmem, rfl⟩
    exact ⟨rank, h.mem_order.1 hmem⟩
  · rintro ⟨rank, hrank⟩
    exact ⟨(rank, key), h.mem_order.2 hrank, rfl⟩

/-- Keys that keep their ranks keep their order. -/
theorem Coherent.filter_queue_eq {q' : Ranking} (h : q.Coherent) (h' : q'.Coherent)
    {p : String → Bool} (hsame : ∀ key, p key = true → q'.rank? key = q.rank? key) :
    q'.queue.filter p = q.queue.filter p := by
  have hpairs : q'.order.toList.filter (p ∘ Prod.snd) = q.order.toList.filter (p ∘ Prod.snd) := by
    refine eq_of_pairwise_lt (Std.TreeMap.ordered_keys_toList.filter _)
      (Std.TreeMap.ordered_keys_toList.filter _) fun ⟨rank, key⟩ => ?_
    rw [List.mem_filter, List.mem_filter, h.mem_order, h'.mem_order]
    refine and_congr_left fun hp => ?_
    rw [hsame key hp]
  rw [queue, queue, List.filter_map, List.filter_map, hpairs]

/-- A key that is removed leaves the queue, and the others keep their order. -/
theorem Coherent.queue_remove (h : q.Coherent) (key : String) :
    (q.remove key).queue = q.queue.filter (· ≠ key) := by
  rw [← h.filter_queue_eq (h.remove key), List.filter_eq_self.2]
  · intro k hk
    rw [(h.remove key).mem_queue, rank?_remove] at hk
    by_cases hkey : key = k
    · simp [hkey] at hk
    · simpa using Ne.symm hkey
  · intro k hk
    rw [rank?_remove, if_neg (Ne.symm (by simpa using hk))]

/-- Taking out the victim is removing it. -/
theorem Coherent.popVictim_eq (h : q.Coherent) :
    q.popVictim = q.victim?.map fun key => (key, q.remove key) := by
  unfold popVictim victim?
  cases hmin : q.order.minEntry? with
  | none => rfl
  | some entry =>
    obtain ⟨rank, key⟩ := entry
    rw [minEntry?_eq_head?_toList] at hmin
    have hrank : q.rank? key = some rank := h.mem_order.1 (List.mem_of_mem_head? hmin)
    simp [Ranking.remove, hrank]

/-- There is no victim exactly if no key is tracked. -/
theorem Coherent.victim?_eq_none_iff (h : q.Coherent) :
    q.victim? = none ↔ ∀ key, q.rank? key = none := by
  rw [victim?_eq_head?_queue, List.head?_eq_none_iff, List.eq_nil_iff_forall_not_mem]
  simp [h.mem_queue]

/-- The victim has the least rank. -/
theorem Coherent.victim?_eq_some_iff (h : q.Coherent) {key : String} :
    q.victim? = some key ↔ ∃ rank, q.rank? key = some rank ∧
      ∀ other r, q.rank? other = some r → other ≠ key → compare rank r = .lt := by
  have least : ∀ victim, q.victim? = some victim → ∃ rank, q.rank? victim = some rank ∧
      ∀ other r, q.rank? other = some r → other ≠ victim → compare rank r = .lt := by
    intro victim hvictim
    rw [victim?_eq_head?_queue, queue, List.head?_map, Option.map_eq_some_iff] at hvictim
    obtain ⟨⟨rank, k⟩, hhead, rfl⟩ := hvictim
    obtain ⟨rest, hlist⟩ := List.head?_eq_some_iff.1 hhead
    have hsorted := Std.TreeMap.ordered_keys_toList (t := q.order)
    rw [hlist, List.pairwise_cons] at hsorted
    refine ⟨rank, h.mem_order.1 (by simp [hlist]), fun other r hr hne => ?_⟩
    have hmem := h.mem_order.2 hr
    rw [hlist, List.mem_cons] at hmem
    rcases hmem with heq | hmem
    · exact absurd (congrArg Prod.snd heq) hne
    · exact hsorted.1 (r, other) hmem
  refine ⟨least key, fun ⟨rank, hrank, hleast⟩ => ?_⟩
  cases hv : q.victim? with
  | none =>
    rw [h.victim?_eq_none_iff.1 hv key] at hrank
    cases hrank
  | some victim =>
    obtain ⟨r, hr, hvictim⟩ := least victim hv
    by_cases heq : key = victim
    · rw [heq]
    · have hlt := hvictim key rank hrank heq
      have hswap : compare r rank = (compare rank r).swap := Std.OrientedCmp.eq_swap
      rw [hswap, hleast victim r hr (Ne.symm heq)] at hlt
      cases hlt

/-- No key stands in the queue twice. -/
theorem Coherent.nodup_queue (h : q.Coherent) : q.queue.Nodup := by
  rw [queue, List.Nodup, List.pairwise_map]
  refine Std.TreeMap.ordered_keys_toList.imp_of_mem fun {a b} ha hb hlt heq => ?_
  have hrank := h.mem_order.1 ha
  rw [heq, h.mem_order.1 hb] at hrank
  have hrefl : compare a.1 a.1 = .eq := Std.ReflCmp.compare_self
  rw [Option.some.inj hrank, hrefl] at hlt
  cases hlt

/-- Giving up the victim leaves the rest of the queue. -/
theorem Coherent.queue_eq_cons (h : q.Coherent) {key : String} (hv : q.victim? = some key) :
    q.queue = key :: (q.remove key).queue := by
  rw [victim?_eq_head?_queue, List.head?_eq_some_iff] at hv
  obtain ⟨rest, hqueue⟩ := hv
  have hnodup := h.nodup_queue
  rw [hqueue, List.nodup_cons] at hnodup
  rw [h.queue_remove, hqueue, List.filter_cons_of_neg (by simp), List.filter_eq_self.2]
  intro k hk
  simpa using fun heq : k = key => hnodup.1 (heq ▸ hk)

/-! ## What an operation does to the ranks -/

theorem rank?_recordWrite_self (q : Ranking) (key : String) :
    (q.recordWrite key).rank? key = some (match q.rank? key with
      | none => ⟨0, q.clock + 1⟩
      | some rank => q.policy.rankAfterWrite rank (q.clock + 1)) :=
  (rank?_place _ key _ _ key).trans (if_pos rfl)

theorem rank?_recordWrite_of_ne (q : Ranking) {key k : String} (hne : key ≠ k) :
    (q.recordWrite key).rank? k = q.rank? k := by
  rw [recordWrite, rank?_place, if_neg hne]
  rfl

/-- A new key leaves the order of the others as it was. -/
theorem Coherent.filter_queue_recordWrite (h : q.Coherent) {key : String}
    (hnew : q.rank? key = none) : (q.recordWrite key).queue.filter (· ≠ key) = q.queue := by
  rw [h.filter_queue_eq (h.recordWrite key), List.filter_eq_self.2]
  · intro k hk
    rw [h.mem_queue] at hk
    have hne : k ≠ key := by
      rintro rfl
      rw [hnew] at hk
      cases hk
    simpa using hne
  · intro k hk
    exact q.rank?_recordWrite_of_ne (Ne.symm (by simpa using hk))

theorem rank?_recordRead_self (q : Ranking) (key : String) :
    (q.recordRead key).rank? key =
      (q.rank? key).map fun rank => q.policy.rankAfterRead rank (q.clock + 1) := by
  unfold recordRead
  cases hkey : q.rank? key with
  | none => exact hkey
  | some rank => rw [rank?_place, if_pos rfl, Option.map_some]

theorem rank?_recordRead_of_ne (q : Ranking) {key k : String} (hne : key ≠ k) :
    (q.recordRead key).rank? k = q.rank? k := by
  unfold recordRead
  cases hkey : q.rank? key with
  | none => rfl
  | some rank =>
    rw [rank?_place, if_neg hne]
    rfl

@[simp] theorem rank?_clear (q : Ranking) (key : String) : q.clear.rank? key = none := by
  simp [Ranking.clear, rank?]

theorem contains_recordWrite (q : Ranking) (key k : String) :
    (q.recordWrite key).contains k = (decide (key = k) || q.contains k) := by
  by_cases h : key = k
  · subst h
    simp [contains_eq, rank?_recordWrite_self]
  · simp [contains_eq, rank?_recordWrite_of_ne q h, h]

theorem contains_recordRead (q : Ranking) (key k : String) :
    (q.recordRead key).contains k = q.contains k := by
  by_cases h : key = k
  · subst h
    simp [contains_eq, rank?_recordRead_self]
  · simp [contains_eq, rank?_recordRead_of_ne q h]

theorem contains_remove (q : Ranking) (key k : String) :
    (q.remove key).contains k = (decide (key ≠ k) && q.contains k) := by
  rw [contains_eq, contains_eq, rank?_remove]
  by_cases h : key = k <;> simp [h]

@[simp] theorem policy_recordRead (q : Ranking) (key : String) :
    (q.recordRead key).policy = q.policy := by
  unfold recordRead
  split <;> rfl

theorem clock_recordRead_le (q : Ranking) (key : String) :
    (q.recordRead key).clock ≤ q.clock + 1 := by
  unfold recordRead
  split
  · exact Nat.le_succ _
  · exact Nat.le_refl _

@[simp] theorem policy_remove (q : Ranking) (key : String) : (q.remove key).policy = q.policy := by
  unfold remove
  split <;> rfl

@[simp] theorem clock_remove (q : Ranking) (key : String) : (q.remove key).clock = q.clock := by
  unfold remove
  split <;> rfl

end Ranking

end Resilience.Cache
