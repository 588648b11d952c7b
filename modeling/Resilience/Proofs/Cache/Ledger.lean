import Mathlib.Algebra.Ring.Nat
import Resilience.Proofs.Cache.Recency

/-!
# The ledger of a store

What enters a store leaves it through one of four exits : it is given up for another key, purged,
deleted or cleared. The first two are counted, and so are the reads that hit and those that miss.
`Store.Booked` says of two states of a store and the calls made in between that every counter has
grown by what the calls answered, and that the entries which entered are those still there and
those which left. One call is booked so (`Store.Coherent.booked`), books that follow each other add
up (`Store.Booked.trans`), and so the calls of a whole run are (`Usage.booked_run`).

Writing a key that is stored counts as neither, whether or not its entry has expired.
-/

namespace Resilience.Cache

variable {V : Type}

/-! ## What a call comes to -/

namespace Call

variable (c : Call V)

/-- Whether the call is a read. -/
def isRead : Bool :=
  match c.request with
  | .get _ => true
  | _ => false

/-- Whether the call is a read that returned a value. -/
def isHit : Bool :=
  match c.request, c.reply with
  | .get _, .found (some _) => true
  | _, _ => false

/-- Whether the call is a write that returned the key given up for it. -/
def isEviction : Bool :=
  match c.request, c.reply with
  | .set .., .evicted (some _) => true
  | _, _ => false

/-- Whether the call is a deletion of a key that was stored. -/
def isDeletion : Bool :=
  match c.request, c.reply with
  | .delete _, .removed true => true
  | _, _ => false

/-- How many entries a purge says it removed. -/
def purged : Nat :=
  match c.request, c.reply with
  | .purge, .count n => n
  | _, _ => 0

/-- How many entries `clear` says it removed. -/
def cleared : Nat :=
  match c.request, c.reply with
  | .clear, .count n => n
  | _, _ => 0

end Call

namespace Store

/-- Whether the request writes a key that is not stored. -/
def admits (s : Store V) : Request V → Bool
  | .set key _ _ => !s.entries.contains key
  | _ => false

/-- Between `s` and `s'` these calls were made, and so many of them wrote a key that was not
stored. -/
structure Booked (s s' : Store V) (admitted : Nat) (calls : List (Call V)) : Prop where
  hits : s'.statistics.hits = s.statistics.hits + calls.countP Call.isHit
  reads : s'.statistics.hits + s'.statistics.misses =
    s.statistics.hits + s.statistics.misses + calls.countP Call.isRead
  evictions : s'.statistics.evictions = s.statistics.evictions + calls.countP Call.isEviction
  expirations : s'.statistics.expirations =
    s.statistics.expirations + (calls.map Call.purged).sum
  size : s'.size + calls.countP Call.isEviction + (calls.map Call.purged).sum +
    calls.countP Call.isDeletion + (calls.map Call.cleared).sum = s.size + admitted
  /-- None of the calls that wrote a new key is a read. -/
  admitted_le : admitted + calls.countP Call.isRead ≤ calls.length

namespace Booked

variable {s s' s'' : Store V} {admitted admitted' : Nat} {calls calls' : List (Call V)}

theorem refl (s : Store V) : s.Booked s 0 [] where
  hits := rfl
  reads := rfl
  evictions := rfl
  expirations := rfl
  size := rfl
  admitted_le := Nat.le_refl 0

/-- The books of one stretch of calls and of the next are those of both. -/
theorem trans (h : s.Booked s' admitted calls) (h' : s'.Booked s'' admitted' calls') :
    s.Booked s'' (admitted + admitted') (calls ++ calls') := by
  obtain ⟨hhits, hreads, hevictions, hexpirations, hsize, hle⟩ := h
  obtain ⟨hhits', hreads', hevictions', hexpirations', hsize', hle'⟩ := h'
  constructor <;>
    simp only [List.countP_append, List.map_append, List.sum_append, List.length_append] <;> omega

end Booked

/-! ## One call -/

variable {s : Store V}

/-- A write is counted only if a key is given up for it, and adds an entry unless it replaces one or
takes the place of another. -/
theorem Coherent.booked_set (h : s.Coherent) (now : Nat) (key : String) (value : V)
    (ttl? : Option Nat) : s.Booked (s.perform now (.set key value ttl?)).2
      (s.admits (.set key value ttl?)).toNat
      [⟨now, .set key value ttl?, (s.perform now (.set key value ttl?)).1⟩] := by
  have hone := h.one_le
  have hsize := h.size_le
  have hset := h.size_setFor key value (ttl?.getD s.defaultTtl) now
  rw [perform_set]
  cases hroom : s.needsRoom key with
  | false =>
    rw [setFor_of_room hroom] at hset ⊢
    rw [needsRoom, Bool.and_eq_false_iff, Bool.not_eq_false', decide_eq_false_iff_not] at hroom
    refine ⟨rfl, rfl, rfl, rfl, ?_, Bool.toNat_le _⟩
    show (s.insert key value _ now).size = _
    rw [hset, admits]
    cases hstored : s.entries.contains key with
    | true => rfl
    | false =>
      have := hroom.resolve_left (by simp [hstored])
      simp only [Bool.false_eq_true, if_false, Bool.not_false, Bool.toNat_true]
      omega
  | true =>
    obtain ⟨victim, hv, -, -⟩ := h.victim_of_full hroom
    rw [h.setFor_of_full hroom hv] at hset ⊢
    rw [needsRoom, Bool.and_eq_true, Bool.not_eq_true', decide_eq_true_eq] at hroom
    refine ⟨rfl, rfl, rfl, rfl, ?_, Bool.toNat_le _⟩
    rw [Prod.map_snd, id, hset, admits, hroom.1]
    simp only [Bool.false_eq_true, if_false, Bool.not_false, Bool.toNat_true]
    show min (s.size + 1) s.maxSize + 1 = s.size + 1
    omega

/-- A deletion is not counted, and takes out the entry it finds. -/
theorem booked_delete (s : Store V) (now : Nat) (key : String) :
    s.Booked (s.perform now (.delete key)).2 0
      [⟨now, .delete key, (s.perform now (.delete key)).1⟩] := by
  simp only [perform, delete]
  cases hstored : s.entries.contains key with
  | false => exact ⟨rfl, rfl, rfl, rfl, rfl, Nat.zero_le 1⟩
  | true => exact ⟨rfl, rfl, rfl, rfl, size_drop_add hstored, Nat.zero_le 1⟩

/-- A purge counts what it removes. -/
theorem booked_purge (s : Store V) (now : Nat) :
    s.Booked (s.perform now .purge).2 0 [⟨now, .purge, (s.perform now .purge).1⟩] := by
  have hcounters : (s.perform now .purge).2.statistics = _ := s.statistics_purge now
  have hsize : (s.perform now .purge).2.size + (s.expiredKeys now).length = s.size :=
    s.size_purge_add now
  exact ⟨congrArg (·.hits) hcounters, congrArg (fun c => c.hits + c.misses) hcounters,
    congrArg (·.evictions) hcounters, congrArg (·.expirations) hcounters, hsize, Nat.zero_le 1⟩

/-- Whatever is asked of a coherent store is booked. -/
theorem Coherent.booked (h : s.Coherent) (now : Nat) (r : Request V) :
    s.Booked (s.perform now r).2 (s.admits r).toNat [⟨now, r, (s.perform now r).1⟩] := by
  cases r with
  | set key value ttl? => exact h.booked_set now key value ttl?
  | get key =>
    simp only [Store.perform, Store.get]
    cases s.live? key now with
    | some v => exact ⟨rfl, Nat.add_right_comm .., rfl, rfl, rfl, Nat.le_refl 1⟩
    | none => exact ⟨rfl, rfl, rfl, rfl, rfl, Nat.le_refl 1⟩
  | containsLive key => exact ⟨rfl, rfl, rfl, rfl, rfl, Nat.zero_le 1⟩
  | delete key => exact s.booked_delete now key
  | clear => exact ⟨rfl, rfl, rfl, rfl, Nat.zero_add _, Nat.zero_le 1⟩
  | purge => exact s.booked_purge now

end Store

/-! ## A whole run -/

namespace Usage

/-- How many of the steps write a key that is not stored at that moment. -/
def admissions (u : Usage V) : List (Step V) → Nat
  | [] => 0
  | x :: steps => (u.store.admits x.request).toNat + (u.step x).admissions steps

/-- However a coherent store is used, all that happens to it is booked. -/
theorem booked_run {u : Usage V} (h : u.store.Coherent) (steps : List (Step V)) :
    ∃ made, (u.run steps).calls = u.calls ++ made ∧
      u.store.Booked (u.run steps).store (u.admissions steps) made := by
  induction steps generalizing u with
  | nil => exact ⟨[], (List.append_nil _).symm, .refl u.store⟩
  | cons x steps ih =>
    obtain ⟨made, hcalls, hmade⟩ := ih (u := u.step x) (h.perform (u.now + x.wait) x.request)
    refine ⟨_ :: made, hcalls.trans ?_, (h.booked (u.now + x.wait) x.request).trans hmade⟩
    rw [step, List.append_assoc, List.singleton_append]

/-- Every step makes one call. -/
theorem length_calls_run (u : Usage V) (steps : List (Step V)) :
    (u.run steps).calls.length = u.calls.length + steps.length := by
  induction steps generalizing u with
  | nil => rfl
  | cons x steps ih =>
    rw [run, List.foldl_cons, ← run, ih, List.length_cons, step, List.length_append,
      List.length_singleton, Nat.add_assoc, Nat.add_comm 1]

/-- However a new store is used, its counters are an exact account of the calls : the reads that
returned a value and all reads, the writes that returned a key, and what the purges say they
removed. Every entry that entered is still there or has left by one of the four exits. Whether a key
is live, the size and the counters can be asked for at any time without a trace, and the counters
never run ahead of the number of requests. -/
theorem report_accounts_for_calls (maxSize defaultTtl : Nat) (policy : Policy) (start : Nat)
    (steps : List (Step V)) :
    let u₀ : Usage V := fresh maxSize defaultTtl policy start
    let u := u₀.run steps
    let counters := u.store.report
    counters.hits = u.calls.countP Call.isHit ∧
      counters.hits + counters.misses = u.calls.countP Call.isRead ∧
      counters.evictions = u.calls.countP Call.isEviction ∧
      counters.expirations = (u.calls.map Call.purged).sum ∧
      u₀.admissions steps = u.store.size + counters.evictions + counters.expirations +
        u.calls.countP Call.isDeletion + (u.calls.map Call.cleared).sum ∧
      counters.hits + counters.misses + counters.evictions + counters.expirations ≤
        steps.length ∧
      counters = u.store.statistics ∧
      ∀ wait key, (u.step ⟨wait, .containsLive key⟩).store = u.store := by
  intro u₀ u counters
  have hcoherent : u₀.store.Coherent := Store.coherent_empty maxSize defaultTtl policy
  obtain ⟨made, hcalls, hmade⟩ := booked_run hcoherent steps
  have hbooked : u₀.store.Booked u.store (u₀.admissions steps) u.calls :=
    (hcalls.trans (List.nil_append made)).symm ▸ hmade
  have hlength : u.calls.length = 0 + steps.length := u₀.length_calls_run steps
  have hcounters : counters = u.store.statistics := by
    have hentries := (coherent_run hcoherent steps).entries_eq
    show { u.store.statistics with entries := u.store.size } = u.store.statistics
    rw [← hentries]
  have hempty : u₀.store.size = 0 := rfl
  have hhits := hbooked.hits.trans (Nat.zero_add _)
  have hreads := hbooked.reads.trans (Nat.zero_add _)
  have hevictions := hbooked.evictions.trans (Nat.zero_add _)
  have hexpirations := hbooked.expirations.trans (Nat.zero_add _)
  have hsize := hbooked.size
  have hle := hbooked.admitted_le
  rw [hcounters]
  exact ⟨hhits, hreads, hevictions, hexpirations, by omega, by omega, rfl, fun _ _ => rfl⟩

end Usage

end Resilience.Cache
