import Resilience.Proofs.Cache.Coherence
import Resilience.Proofs.Cache.Standing

/-!
# The key given up

A store tells its ranking of every write, of the reads that hit and of every removal
(`Store.actions`), so the ranking it has is the one those actions lead to (`Usage.ranking_run`).
What is said of a ranking in terms of its history then holds of a store in use : the key given up
for a new one is the victim of that history (`eviction_follows_history`).
-/

namespace Resilience.Cache

open Ranking (Action Log IsVictim Precedes tracked)

variable {V : Type}

namespace Store

/-- What a request does to the ranking. -/
def actions (s : Store V) (now : Nat) : Request V → List Action
  | .set key _ _ => if s.needsRoom key then [.pop, .write key] else [.write key]
  | .get key => if s.containsLive key now then [.read key] else []
  | .containsLive _ => []
  | .delete key => if s.entries.contains key then [.remove key] else []
  | .clear => [.clear]
  | .purge => (s.expiredKeys now).map .remove

variable {s : Store V} {l : Log}

theorem ranking_drops (hl : l.ranking = s.ranking) (keys : List String) :
    (l.run (keys.map .remove)).ranking = (keys.foldl drop s).ranking := by
  induction keys generalizing l s with
  | nil => exact hl
  | cons key keys ih =>
    refine ih ?_
    show l.ranking.remove key = s.ranking.remove key
    rw [hl]

/-- A write is the write of a key in the log, after the victim was popped if room was needed. -/
theorem ranking_setFor (hl : l.ranking = s.ranking) (key : String) (value : V) (ttl now : Nat) :
    (l.run (if s.needsRoom key then [.pop, .write key] else [.write key])).ranking =
      (s.setFor key value ttl now).2.ranking := by
  unfold setFor
  cases s.needsRoom key with
  | false => exact congrArg (·.recordWrite key) hl
  | true =>
    show (l.act .pop).ranking.recordWrite key = s.evict.2.ranking.recordWrite key
    unfold Log.act evict
    rw [hl]
    cases s.ranking.popVictim with
    | some popped => rfl
    | none => cases s.entries.minKey? <;> rfl

/-- A request does to the ranking what its actions do. -/
theorem ranking_perform (hl : l.ranking = s.ranking) (now : Nat) (r : Request V) :
    (l.run (s.actions now r)).ranking = (s.perform now r).2.ranking := by
  cases r with
  | set key value ttl? =>
    rw [perform_set]
    exact ranking_setFor hl key value _ now
  | get key =>
    cases hlive : s.live? key now with
    | none =>
      simp only [actions, containsLive, perform, get, hlive]
      exact hl
    | some v =>
      simp only [actions, containsLive, perform, get, hlive]
      exact congrArg (·.recordRead key) hl
  | containsLive key => exact hl
  | delete key =>
    show _ = (s.delete key).2.ranking
    simp only [actions, delete]
    split
    · exact congrArg (·.remove key) hl
    · exact hl
  | clear => exact congrArg Ranking.clear hl
  | purge => exact ranking_drops hl _

/-- A new key that finds the store full takes the place of the victim. The other entries stay, in
the order in which they are to be given up. -/
theorem Coherent.setFor_new_of_full (h : s.Coherent) {key : String}
    (hnew : s.entries.contains key = false) (hfull : s.size = s.maxSize) (value : V)
    (ttl now : Nat) : ∃ victim, s.ranking.victim? = some victim ∧ victim ≠ key ∧
      s.entries.contains victim = true ∧ (s.setFor key value ttl now).1 = some victim ∧
      (∀ other, other ≠ key → other ≠ victim →
        (s.setFor key value ttl now).2.entries[other]? = s.entries[other]?) ∧
      s.ranking.queue =
        victim :: (s.setFor key value ttl now).2.ranking.queue.filter (· ≠ key) := by
  have hroom : s.needsRoom key = true := by simp [needsRoom, hnew, hfull]
  obtain ⟨victim, hv, hstored, hne⟩ := h.victim_of_full hroom
  have hset := h.setFor_of_full hroom hv value ttl now
  have hkey : (s.ranking.remove victim).rank? key = none := by
    rw [Ranking.rank?_remove, if_neg hne, ← Option.isNone_iff_eq_none, ← Option.not_isSome,
      ← Ranking.contains_eq, ← h.contains, hnew]
    rfl
  have hqueue : (s.setFor key value ttl now).2.ranking.queue.filter (· ≠ key) =
      (s.ranking.remove victim).queue := by
    rw [hset]
    exact (h.ranking.remove victim).filter_queue_recordWrite hkey
  refine ⟨victim, hv, hne, hstored, by rw [hset], fun other hkey' hvictim => ?_, ?_⟩
  · rw [getElem?_setFor, if_neg (Ne.symm hkey'), hset, if_neg]
    simpa using Ne.symm hvictim
  · rw [hqueue]
    exact h.ranking.queue_eq_cons hv

end Store

namespace Usage

/-- What the steps do to the ranking. -/
def actions (u : Usage V) : List (Step V) → List Action
  | [] => []
  | x :: steps =>
    u.store.actions (u.now + x.wait) x.request ++ (u.step x).actions steps

/-- The log of a store's actions has the same ranking as the store. -/
theorem ranking_run {u : Usage V} {l : Log} (hl : l.ranking = u.store.ranking)
    (steps : List (Step V)) : (l.run (u.actions steps)).ranking = (u.run steps).store.ranking := by
  induction steps generalizing u l with
  | nil => exact hl
  | cons x steps ih =>
    rw [actions, Log.run, List.foldl_append]
    exact ih (Store.ranking_perform hl (u.now + x.wait) x.request)

end Usage

/-- With fewer than 2^64 actions, the victim of a ranking is the key that goes before all other
tracked keys by the history alone, and there is none exactly if no key is tracked. So it is in a
store in use, with the reads that hit for reads : a new key that finds the store full takes the
place of that victim, which is another key and was stored, and all other entries stay, in the order
in which they are to be given up. -/
theorem eviction_follows_history (policy : Policy) :
    (∀ actions : List Action, actions.length ≤ Number.wordLimit →
      let l := (Log.start policy).run actions
      (∀ key, l.ranking.victim? = some key ↔ IsVictim policy l.past key) ∧
        (l.ranking.victim? = none ↔ ∀ key, tracked key l.past = false) ∧
        l.ranking.popVictim.map Prod.fst = l.ranking.victim? ∧
        l.ranking.queue.Pairwise (Precedes policy l.past)) ∧
      ∀ (maxSize defaultTtl start : Nat) (steps : List (Step V)),
        let u : Usage V := .fresh maxSize defaultTtl policy start
        let s := (u.run steps).store
        let l := (Log.start policy).run (u.actions steps)
        (u.actions steps).length ≤ Number.wordLimit →
          l.ranking = s.ranking ∧ (∀ key, tracked key l.past = s.entries.contains key) ∧
            ∀ (key : String) (value : V) (ttl now : Nat),
              s.entries.contains key = false → s.size = s.maxSize →
                ∃ victim, (s.setFor key value ttl now).1 = some victim ∧
                  IsVictim policy l.past victim ∧ victim ≠ key ∧
                  s.entries.contains victim = true ∧
                  (∀ other, other ≠ key → other ≠ victim →
                    (s.setFor key value ttl now).2.entries[other]? = s.entries[other]?) ∧
                  s.ranking.queue =
                    victim :: (s.setFor key value ttl now).2.ranking.queue.filter (· ≠ key) := by
  have follows : ∀ actions : List Action, ((Log.start policy).run actions).Follows policy :=
    (Log.follows_start policy).run
  have counted : ∀ actions : List Action, actions.length ≤ Number.wordLimit →
      ((Log.start policy).run actions).past.length ≤ readLimit := by
    intro actions hlength
    rw [Log.length_past_run, Log.start, List.length_nil, Nat.zero_add]
    exact hlength
  constructor
  · intro actions hlength l
    have hl : l.Follows policy := follows actions
    have hreads : l.past.length ≤ readLimit := counted actions hlength
    refine ⟨fun key => hl.victim?_eq_some_iff hreads, hl.victim?_eq_none_iff, ?_,
      hl.pairwise_queue hreads⟩
    rw [hl.coherent.popVictim_eq, Option.map_map]
    exact Option.map_id_apply
  · intro maxSize defaultTtl start steps u s l hlength
    have hl : l.Follows policy := follows (u.actions steps)
    have hreads : l.past.length ≤ readLimit := counted (u.actions steps) hlength
    have hranking : l.ranking = s.ranking := u.ranking_run rfl steps
    have hs : s.Coherent :=
      Usage.coherent_run (Store.coherent_empty maxSize defaultTtl policy) steps
    refine ⟨hranking, fun key => ?_, fun key value ttl now hnew hfull => ?_⟩
    · rw [hl.tracked_eq, hranking, hs.contains, Ranking.contains_eq]
    · obtain ⟨victim, hv, hne, hstored, hevicted, hothers, hqueue⟩ :=
        hs.setFor_new_of_full hnew hfull value ttl now
      have hvictim : IsVictim policy l.past victim :=
        (hl.victim?_eq_some_iff hreads).1 (hranking ▸ hv)
      exact ⟨victim, hevicted, hvictim, hne, hstored, hothers, hqueue⟩

/-- Read since, `"a"` stays and `"b"` is the victim by reads, even if it was written last. A store
for one entry gives that one up. -/
theorem eviction_follows_history_of_reads :
    ((Log.start .lfu).run [.write "a", .write "b", .read "a", .write "b"]).ranking.victim? =
        some "b" ∧
      let s := ((Usage.fresh 1 1000 .lfu 0 : Usage Nat).run [⟨0, .set "a" 1 none⟩]).store
      ∃ victim, (s.setFor "b" 2 1000 5).1 = some victim ∧ s.entries.contains victim = true := by
  obtain ⟨hranking, hstore⟩ := eviction_follows_history (V := Nat) .lfu
  constructor
  · refine ((hranking [.write "a", .write "b", .read "a", .write "b"] (by decide)).1 "b").2
      ⟨by decide, fun other htracked hne => ?_⟩
    have hother : "a" = other := by
      simpa [Log.run, Log.act, Log.start, tracked, Ne.symm hne] using htracked
    exact hother ▸ (by decide)
  · intro s
    have hlength : ((Usage.fresh 1 1000 .lfu 0 : Usage Nat).actions
        [⟨0, .set "a" 1 none⟩]).length ≤ Number.wordLimit := by
      simp [Usage.actions, Usage.fresh, Store.actions, Store.empty, Store.needsRoom, Store.size,
        Number.wordLimit]
    have hnew : s.entries.contains "b" = false := by
      simp [s, Usage.run, Usage.step, Usage.fresh, Store.perform, Store.set, Store.setFor,
        Store.needsRoom, Store.empty, Store.size]
    have hfull : s.size = s.maxSize := by
      simp [s, Usage.run, Usage.step, Usage.fresh, Store.perform, Store.set, Store.setFor,
        Store.needsRoom, Store.empty, Store.size, Std.TreeMap.size_insert]
    obtain ⟨victim, hv, -, -, hstored, -⟩ :=
      (hstore 1 1000 0 [⟨0, .set "a" 1 none⟩] hlength).2.2 "b" 2 1000 5 hnew hfull
    exact ⟨victim, hv, hstored⟩

end Resilience.Cache
