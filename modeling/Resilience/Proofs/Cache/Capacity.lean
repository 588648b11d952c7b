import Mathlib.Data.List.Forall2
import Mathlib.Data.List.Perm.Subperm
import Resilience.Proofs.Cache.Recency

/-!
# A larger store keeps what a smaller one keeps

Two stores that give up the key least recently used, the one no larger than the other, are put to
the same use. They part ways : a read may hit in the larger one only and then reorders only its
keys, and a write may replace a value here and make room there. Still the smaller one never holds
an entry that the larger one does not hold (`smaller_within_larger`).

`Store.Within` is the relation that every request keeps. Besides the inclusion it says that the
keys of both come in the same order, and that the larger store has no more entries to spare than
places to spare. So if the larger store is full the smaller one is, and a victim of the larger one
that the smaller one holds is the victim there too (`Store.Within.evicted`).
-/

namespace Resilience.Cache

variable {V : Type}

namespace Store

variable {s l : Store V}

/-! ## Two stores -/

/-- All that `s` holds `l` holds too, the keys of `s` come in the same order in `l`, and `l` has no
more entries than `s` beyond the places it has more. -/
structure Within (s l : Store V) : Prop where
  smaller : s.Recent
  larger : l.Recent
  ttl_eq : s.defaultTtl = l.defaultTtl
  maxSize_le : s.maxSize ≤ l.maxSize
  entries_of : ∀ (key : String) (e : Entry V),
    s.entries[key]? = some e → l.entries[key]? = some e
  tick_lt_iff : ∀ a b ra rb ra' rb',
    s.ranking.rank? a = some ra → s.ranking.rank? b = some rb →
    l.ranking.rank? a = some ra' → l.ranking.rank? b = some rb' →
    (ra.tick < rb.tick ↔ ra'.tick < rb'.tick)
  size_add_le : l.size + s.maxSize ≤ s.size + l.maxSize

/-- Empty stores are alike but for their sizes. -/
theorem within_empty {m n : Nat} (hmn : m ≤ n) (defaultTtl : Nat) :
    (empty m defaultTtl .lru : Store V).Within (empty n defaultTtl .lru) where
  smaller := recent_empty m defaultTtl
  larger := recent_empty n defaultTtl
  ttl_eq := rfl
  maxSize_le := by
    show max m 1 ≤ max n 1
    omega
  entries_of key e h := by simp [empty] at h
  tick_lt_iff a b ra rb ra' rb' h := by simp [empty, Ranking.empty, Ranking.rank?] at h
  size_add_le := by
    show (∅ : Std.TreeMap String (Entry V)).size + max m 1 ≤
      (∅ : Std.TreeMap String (Entry V)).size + max n 1
    omega

/-- A key stored in the smaller store has its rank in both. -/
theorem Within.rank_of (h : s.Within l) {key : String} {rank : Rank}
    (hrank : s.ranking.rank? key = some rank) : ∃ r, l.ranking.rank? key = some r := by
  obtain ⟨e, he⟩ := (h.smaller.stored_iff key).2 ⟨rank, hrank⟩
  exact (h.larger.stored_iff key).1 ⟨e, h.entries_of key e he⟩

theorem Within.contains_of (h : s.Within l) {key : String} (hkey : s.entries.contains key = true) :
    l.entries.contains key = true := by
  rw [Std.TreeMap.contains_eq_isSome_getElem?, Option.isSome_iff_exists] at hkey ⊢
  obtain ⟨e, he⟩ := hkey
  exact ⟨e, h.entries_of key e he⟩

/-- What may become of a key in the two stores : the smaller one does not hold it afterwards, both
leave its rank as it is, or both give it the next tick. -/
def Moved (s l s' l' : Store V) (key : String) : Prop :=
  s'.ranking.rank? key = none ∨
    (s'.ranking.rank? key = s.ranking.rank? key ∧ l'.ranking.rank? key = l.ranking.rank? key) ∨
    (s'.ranking.rank? key = some ⟨0, s.ranking.clock + 1⟩ ∧
      l'.ranking.rank? key = some ⟨0, l.ranking.clock + 1⟩)

/-- Keys that are moved so stay in the same order. -/
theorem Within.tick_lt_iff_of_moved (h : s.Within l) {s' l' : Store V}
    (hmoved : ∀ key, Moved s l s' l' key) (a b : String) (ra rb ra' rb' : Rank)
    (ha : s'.ranking.rank? a = some ra) (hb : s'.ranking.rank? b = some rb)
    (ha' : l'.ranking.rank? a = some ra') (hb' : l'.ranking.rank? b = some rb') :
    ra.tick < rb.tick ↔ ra'.tick < rb'.tick := by
  -- A rank is as it was in both stores, or has the next tick of its store in both.
  have cases_of : ∀ key r r', s'.ranking.rank? key = some r → l'.ranking.rank? key = some r' →
      (s.ranking.rank? key = some r ∧ l.ranking.rank? key = some r' ∧
        r.tick ≤ s.ranking.clock ∧ r'.tick ≤ l.ranking.clock) ∨
      (r.tick = s.ranking.clock + 1 ∧ r'.tick = l.ranking.clock + 1) := by
    intro key r r' hr hr'
    rcases hmoved key with hnone | ⟨hsame, hsame'⟩ | ⟨hnext, hnext'⟩
    · rw [hnone] at hr
      cases hr
    · rw [hsame] at hr
      rw [hsame'] at hr'
      have hle := h.smaller.ranking.tick_le key r hr
      have hle' := h.larger.ranking.tick_le key r' hr'
      exact Or.inl ⟨hr, hr', hle, hle'⟩
    · rw [hnext] at hr
      rw [hnext'] at hr'
      cases hr
      cases hr'
      exact Or.inr ⟨rfl, rfl⟩
  rcases cases_of a ra ra' ha ha' with ⟨hra, hra', hle, hle'⟩ | ⟨hnext, hnext'⟩ <;>
    rcases cases_of b rb rb' hb hb' with ⟨hrb, hrb', hle₂, hle₂'⟩ | ⟨hnext₂, hnext₂'⟩
  · exact h.tick_lt_iff a b ra rb ra' rb' hra hrb hra' hrb'
  · omega
  · omega
  · omega

/-- A key that both hold is live in both or in neither. -/
theorem Within.live?_eq (h : s.Within l) {key : String} {e : Entry V}
    (he : s.entries[key]? = some e) (now : Nat) : l.live? key now = s.live? key now := by
  unfold live?
  rw [he, h.entries_of key e he]

/-- A live value of the smaller store is live in the larger one. -/
theorem Within.live?_of (h : s.Within l) {key : String} {now : Nat} {value : V}
    (hlive : s.live? key now = some value) : l.live? key now = some value := by
  obtain ⟨e, he, -, -⟩ := (s.live?_eq_some_iff key now value).1 hlive
  rw [h.live?_eq he, hlive]

/-- If the larger store has to make room for a key, so has the smaller one. -/
theorem Within.needsRoom_of (h : s.Within l) {key : String} (hroom : l.needsRoom key = true) :
    s.needsRoom key = true := by
  rw [needsRoom, Bool.and_eq_true, Bool.not_eq_true', decide_eq_true_eq] at hroom ⊢
  obtain ⟨hnew, hfull⟩ := hroom
  have hspare := h.size_add_le
  refine ⟨?_, by omega⟩
  rw [Bool.eq_false_iff]
  intro hstored
  rw [h.contains_of hstored] at hnew
  cases hnew

/-- What the larger store gives up the smaller one gives up too, if it holds it. -/
theorem Within.evicted (h : s.Within l) {key : String} {value : V} {ttl now : Nat} {k : String}
    (hl : (l.setFor key value ttl now).1 = some k) (hk : s.entries.contains k = true) :
    (s.setFor key value ttl now).1 = some k := by
  cases hroom : l.needsRoom key with
  | false =>
    rw [setFor_of_room hroom] at hl
    cases hl
  | true =>
    obtain ⟨victim, hv, -, -⟩ := h.larger.victim_of_full hroom
    obtain ⟨least, hleast, -, -⟩ := h.smaller.victim_of_full (h.needsRoom_of hroom)
    rw [h.larger.setFor_of_full hroom hv] at hl
    obtain rfl : victim = k := Option.some.inj hl
    rw [h.smaller.setFor_of_full (h.needsRoom_of hroom) hleast]
    -- Were there another victim here, it would come first there too.
    by_contra hne
    have hne : victim ≠ least := fun heq => hne (congrArg some heq.symm)
    obtain ⟨rank, hrank⟩ := Option.isSome_iff_exists.1
      ((Ranking.contains_eq _ _).symm.trans ((h.smaller.contains victim).symm.trans hk))
    obtain ⟨r, hr, hlt⟩ := h.smaller.tick_lt_of_victim hleast hrank hne
    obtain ⟨r', hr'⟩ := h.rank_of hr
    obtain ⟨rank', hrank', hlt'⟩ := h.larger.tick_lt_of_victim hv hr' (Ne.symm hne)
    have := (h.tick_lt_iff least victim r rank r' rank' hr hrank hr' hrank').1 hlt
    omega

/-- What is to be shown of two stores after a request. -/
theorem Within.of_perform (h : s.Within l) {now : Nat} {r : Request V}
    (hentries : ∀ (key : String) (e : Entry V), (s.perform now r).2.entries[key]? = some e →
      (l.perform now r).2.entries[key]? = some e)
    (hmoved : ∀ key, Moved s l (s.perform now r).2 (l.perform now r).2 key)
    (hsize : (l.perform now r).2.size + s.maxSize ≤ (s.perform now r).2.size + l.maxSize) :
    (s.perform now r).2.Within (l.perform now r).2 := by
  obtain ⟨hmax, httl, -⟩ : _ ∧ _ ∧ _ := by
    simpa only [settings, Prod.mk.injEq] using s.settings_perform now r
  obtain ⟨hmax', httl', -⟩ : _ ∧ _ ∧ _ := by
    simpa only [settings, Prod.mk.injEq] using l.settings_perform now r
  refine ⟨h.smaller.perform now r, h.larger.perform now r, ?_, ?_, hentries,
    h.tick_lt_iff_of_moved hmoved, ?_⟩
  · rw [httl, httl', h.ttl_eq]
  · rw [hmax, hmax']
    exact h.maxSize_le
  · rw [hmax, hmax']
    exact hsize

/-! ### Every request of two stores -/

/-- An entry of the smaller store after a `set` stands in the larger one too: the larger one gives
up nothing that the smaller one keeps. -/
theorem Within.entries_setFor (h : s.Within l) {key : String} {value : V} {ttl now : Nat}
    {k : String} {e : Entry V} (hk : (s.setFor key value ttl now).2.entries[k]? = some e) :
    (l.setFor key value ttl now).2.entries[k]? = some e := by
  simp only [getElem?_setFor] at hk ⊢
  by_cases hkey : key = k
  · rwa [if_pos hkey] at hk ⊢
  · rw [if_neg hkey] at hk ⊢
    split at hk <;> rename_i hgiven
    · cases hk
    · rw [if_neg, h.entries_of k e hk]
      intro hgiven'
      refine hgiven (h.evicted hgiven' ?_)
      rw [Std.TreeMap.contains_eq_isSome_getElem?, hk]
      rfl

theorem Within.moved_setFor (h : s.Within l) (key : String) (value : V) (ttl now : Nat)
    (k : String) :
    Moved s l (s.setFor key value ttl now).2 (l.setFor key value ttl now).2 k := by
  simp only [Moved, h.smaller.rank?_setFor, h.larger.rank?_setFor]
  by_cases hkey : key = k
  · simp [hkey]
  · simp only [if_neg hkey]
    by_cases hgiven : (s.setFor key value ttl now).1 = some k
    · exact Or.inl (if_pos hgiven)
    · rw [if_neg hgiven]
      cases hrank : s.ranking.rank? k with
      | none => exact Or.inl rfl
      | some rank =>
        have hstored : s.entries.contains k = true := by
          rw [h.smaller.contains, Ranking.contains_eq, hrank]
          rfl
        exact Or.inr (Or.inl ⟨rfl, if_neg fun hgiven' => hgiven (h.evicted hgiven' hstored)⟩)

/-- The larger store keeps its room to spare. -/
theorem Within.size_setFor_add_le (h : s.Within l) (key : String) (value : V) (ttl now : Nat) :
    (l.setFor key value ttl now).2.size + s.maxSize ≤
      (s.setFor key value ttl now).2.size + l.maxSize := by
  have hspare := h.size_add_le
  have hmax := h.maxSize_le
  have hle := h.smaller.size_le
  have hle' := h.larger.size_le
  rw [h.smaller.size_setFor, h.larger.size_setFor]
  cases hnew : s.entries.contains key with
  | true =>
    simp only [h.contains_of hnew, if_true]
    exact hspare
  | false =>
    simp only [Bool.false_eq_true, if_false]
    split <;> omega

/-- A write leaves the smaller store within the larger one, whichever of them makes room. -/
theorem Within.set (h : s.Within l) (now : Nat) (key : String) (value : V) (ttl? : Option Nat) :
    (s.perform now (.set key value ttl?)).2.Within (l.perform now (.set key value ttl?)).2 := by
  have hs := s.perform_set now key value ttl?
  have hl := l.perform_set now key value ttl?
  rw [← h.ttl_eq] at hl
  refine h.of_perform (fun k e hk => ?_) (fun k => ?_) ?_
  · rw [hs] at hk
    rw [hl]
    exact h.entries_setFor hk
  · rw [hs, hl]
    exact h.moved_setFor key value _ now k
  · rw [hs, hl]
    exact h.size_setFor_add_le key value _ now

/-- So does a read, which may find the value in the larger store alone. -/
theorem Within.get (h : s.Within l) (now : Nat) (key : String) :
    (s.perform now (.get key)).2.Within (l.perform now (.get key)).2 := by
  have hsame : ∀ t : Store V, (t.perform now (.get key)).2.entries = t.entries :=
    fun t => t.entries_get key now
  refine h.of_perform (fun k e hk => ?_) (fun k => ?_) ?_
  · rw [hsame] at hk ⊢
    exact h.entries_of k e hk
  · show Moved s l (s.get key now).2 (l.get key now).2 k
    simp only [Moved, h.smaller.rank?_get, h.larger.rank?_get]
    by_cases hkey : key = k
    · subst hkey
      cases he : s.entries[key]? with
      | none =>
        have hmiss : s.containsLive key now = false := by simp [containsLive, live?, he]
        exact Or.inl (by simp [hmiss, h.smaller.rank?_eq_none he])
      | some e =>
        -- Both hold the key, and the read hits in both or in neither.
        have hlive : l.containsLive key now = s.containsLive key now := by
          rw [containsLive, containsLive, h.live?_eq he]
        rw [hlive]
        cases s.containsLive key now <;> simp
    · simp [hkey]
  · show (l.perform now (.get key)).2.entries.size + _ ≤
      (s.perform now (.get key)).2.entries.size + _
    rw [hsame, hsame]
    exact h.size_add_le

theorem Within.delete (h : s.Within l) (now : Nat) (key : String) :
    (s.perform now (.delete key)).2.Within (l.perform now (.delete key)).2 := by
  refine h.of_perform (fun k e hk => ?_) (fun k => ?_) ?_
  · show (l.delete key).2.entries[k]? = some e
    rw [show (s.perform now (.delete key)).2 = (s.delete key).2 from rfl, getElem?_delete] at hk
    rw [getElem?_delete]
    split at hk
    · cases hk
    · rw [if_neg ‹_›, h.entries_of k e hk]
  · show Moved s l (s.delete key).2 (l.delete key).2 k
    simp only [Moved, rank?_delete h.smaller.toInStep, rank?_delete h.larger.toInStep]
    by_cases hkey : key = k <;> simp [hkey]
  · show (l.delete key).2.size + _ ≤ (s.delete key).2.size + _
    have hspare := h.size_add_le
    have hmax := h.maxSize_le
    rw [size_delete, size_delete]
    cases hstored : s.entries.contains key with
    | true =>
      simp only [h.contains_of hstored, if_true]
      omega
    | false =>
      simp only [Bool.false_eq_true, if_false]
      split <;> omega

theorem Within.clear (h : s.Within l) (now : Nat) :
    (s.perform now .clear).2.Within (l.perform now .clear).2 := by
  refine h.of_perform (fun k e hk => ?_) (fun k => ?_) ?_
  · simp [perform, Store.clear] at hk
  · exact Or.inl (s.ranking.rank?_clear k)
  · have hmax := h.maxSize_le
    simpa [perform, Store.clear, size] using hmax

/-- What has expired in the smaller store has expired in the larger one. -/
theorem Within.expiredKeys_subset (h : s.Within l) (now : Nat) :
    s.expiredKeys now ⊆ l.expiredKeys now := by
  intro key hkey
  obtain ⟨e, he, hexpired⟩ := (s.mem_expiredKeys now key).1 hkey
  exact (l.mem_expiredKeys now key).2 ⟨e, h.entries_of key e he, hexpired⟩

theorem Within.purge (h : s.Within l) (now : Nat) :
    (s.perform now .purge).2.Within (l.perform now .purge).2 := by
  refine h.of_perform (fun k e hk => ?_) (fun k => ?_) ?_
  · show (l.purge now).2.entries[k]? = some e
    rw [show (s.perform now .purge).2 = (s.purge now).2 from rfl, getElem?_purge,
      Option.filter_eq_some_iff] at hk
    rw [getElem?_purge, h.entries_of k e hk.1]
    simp [Option.filter, hk.2]
  · show Moved s l ((s.expiredKeys now).foldl drop s) ((l.expiredKeys now).foldl drop l) k
    simp only [Moved, rank?_drops]
    by_cases hgone : k ∈ s.expiredKeys now
    · exact Or.inl (if_pos hgone)
    · rw [if_neg hgone]
      cases hrank : s.ranking.rank? k with
      | none => exact Or.inl rfl
      | some rank =>
        obtain ⟨e, he⟩ := (h.smaller.stored_iff k).2 ⟨rank, hrank⟩
        refine Or.inr (Or.inl ⟨rfl, if_neg fun hgone' => hgone ?_⟩)
        obtain ⟨e', he', hexpired⟩ := (l.mem_expiredKeys now k).1 hgone'
        rw [h.entries_of k e he] at he'
        exact (s.mem_expiredKeys now k).2 ⟨e', by rw [he, he'], hexpired⟩
  · show (l.purge now).2.size + _ ≤ (s.purge now).2.size + _
    have hspare := h.size_add_le
    have hleft := s.size_purge_add now
    have hleft' := l.size_purge_add now
    have hfewer : (s.expiredKeys now).length ≤ (l.expiredKeys now).length :=
      ((s.nodup_expiredKeys now).subperm (h.expiredKeys_subset now)).length_le
    omega

/-- Whatever is asked of both leaves the smaller store within the larger one. -/
theorem Within.perform (h : s.Within l) (now : Nat) (r : Request V) :
    (s.perform now r).2.Within (l.perform now r).2 := by
  cases r with
  | set key value ttl? => exact h.set now key value ttl?
  | get key => exact h.get now key
  | containsLive key => exact h
  | delete key => exact h.delete now key
  | clear => exact h.clear now
  | purge => exact h.purge now

/-! ### Replies -/

/-- A value read in the smaller store is read in the larger one. -/
theorem Within.found_of (h : s.Within l) (now : Nat) (r : Request V) (value : V)
    (hfound : (s.perform now r).1 = .found (some value)) :
    (l.perform now r).1 = .found (some value) := by
  cases r with
  | get key =>
    have hlive : s.live? key now = some value := by
      rw [← s.fst_get]
      exact Reply.found.inj hfound
    show Reply.found (l.get key now).1 = _
    rw [l.fst_get, h.live?_of hlive]
  | set key value' ttl? =>
    rw [perform_set] at hfound
    cases hfound
  | containsLive key => cases hfound
  | delete key => cases hfound
  | clear => cases hfound
  | purge => cases hfound

end Store

namespace Usage

/-! ### Every run of two stores -/

/-- The same request at the same instant, and a read that hits here hits there with its value. -/
structure Kept (c d : Call V) : Prop where
  time_eq : c.time = d.time
  request_eq : c.request = d.request
  found_of : ∀ value, c.reply = .found (some value) → d.reply = .found (some value)

/-- Two stores used in the same way, the one within the other. -/
structure Within (u w : Usage V) : Prop where
  now_eq : u.now = w.now
  store : u.store.Within w.store
  calls : List.Forall₂ Kept u.calls w.calls
  hits_le : u.store.statistics.hits ≤ w.store.statistics.hits

/-- What hits in the smaller store hits in the larger one. -/
theorem Kept.isHit_le {c d : Call V} (h : Kept c d) :
    c.reply.isHit.toNat ≤ d.reply.isHit.toNat := by
  cases hc : c.reply with
  | found value? =>
    cases value? with
    | none => exact Nat.zero_le _
    | some value => exact Nat.le_of_eq (by rw [h.found_of value hc])
  | _ => exact Nat.zero_le _

/-- One step of two caches that differ in size. -/
theorem Within.step {u w : Usage V} (h : u.Within w) (x : Step V) :
    (u.step x).Within (w.step x) := by
  have hkept : Kept
      ⟨u.now + x.wait, x.request, (u.store.perform (u.now + x.wait) x.request).1⟩
      ⟨w.now + x.wait, x.request, (w.store.perform (w.now + x.wait) x.request).1⟩ :=
    ⟨by rw [h.now_eq], rfl, fun value => h.now_eq ▸ h.store.found_of _ x.request value⟩
  refine ⟨?_, ?_, ?_, ?_⟩
  · show u.now + x.wait = w.now + x.wait
    rw [h.now_eq]
  · show Store.Within (u.store.perform (u.now + x.wait) x.request).2
      (w.store.perform (w.now + x.wait) x.request).2
    rw [← h.now_eq]
    exact h.store.perform _ x.request
  · exact List.rel_append h.calls (.cons hkept .nil)
  · show (u.store.perform (u.now + x.wait) x.request).2.statistics.hits ≤
      (w.store.perform (w.now + x.wait) x.request).2.statistics.hits
    rw [Store.hits_perform, Store.hits_perform]
    exact Nat.add_le_add h.hits_le hkept.isHit_le

/-- However both are used, the smaller cache stays within the larger one. -/
theorem Within.run {u w : Usage V} (h : u.Within w) (steps : List (Step V)) :
    (u.run steps).Within (w.run steps) := by
  induction steps generalizing u w with
  | nil => exact h
  | cons x steps ih => exact ih (h.step x)

/-- Of two stores that give up the key least recently used and are used in the same way, the one of
no greater size holds after every step only what the other holds too, with the same value and
expiry. Every read that hits there hits in the other with the same value, and the other has never
had fewer hits. -/
theorem smaller_within_larger {m n : Nat} (hmn : m ≤ n) (defaultTtl start : Nat)
    (steps : List (Step V)) :
    let small := (fresh m defaultTtl .lru start : Usage V).run steps
    let large := (fresh n defaultTtl .lru start : Usage V).run steps
    (∀ (key : String) (e : Entry V),
        small.store.entries[key]? = some e → large.store.entries[key]? = some e) ∧
      List.Forall₂ (fun c d => c.time = d.time ∧ c.request = d.request ∧
        ∀ value, c.reply = .found (some value) → d.reply = .found (some value))
        small.calls large.calls ∧
      small.store.statistics.hits ≤ large.store.statistics.hits := by
  intro small large
  have hfresh : (fresh m defaultTtl .lru start : Usage V).Within (fresh n defaultTtl .lru start) :=
    ⟨rfl, Store.within_empty hmn defaultTtl, .nil, Nat.le_refl _⟩
  have h : small.Within large := hfresh.run steps
  exact ⟨h.store.entries_of,
    h.calls.imp fun _ _ hkept => ⟨hkept.time_eq, hkept.request_eq, hkept.found_of⟩, h.hits_le⟩

/-- The second key of two is found in a store for one and so in a store for two. -/
theorem smaller_within_larger_of_two_keys :
    let steps : List (Step Nat) :=
      [⟨0, .set "a" 1 none⟩, ⟨1, .set "b" 2 (some Time.second)⟩, ⟨1, .get "b"⟩]
    let small := (fresh 1 Time.second .lru 0 : Usage Nat).run steps
    let large := (fresh 2 Time.second .lru 0 : Usage Nat).run steps
    small.store.entries["b"]? = some (.storedAt 2 Time.second 1) ∧
      large.store.entries["b"]? = some (.storedAt 2 Time.second 1) ∧
      small.store.statistics.hits ≤ large.store.statistics.hits := by
  intro steps small large
  have hsmall : small.store.entries["b"]? = some (.storedAt 2 Time.second 1) := by
    simp [small, steps, run, step, fresh, Store.perform, Store.set, Store.entries_get,
      Store.getElem?_setFor, Time.second, Time.shortest,
      Time.millisecond]
  obtain ⟨hentries, -, hhits⟩ := smaller_within_larger (by decide : 1 ≤ 2) Time.second 0 steps
  exact ⟨hsmall, hentries "b" _ hsmall, hhits⟩

end Usage

end Resilience.Cache
