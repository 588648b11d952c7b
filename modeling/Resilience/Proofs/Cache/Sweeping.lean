import Resilience.Cache.Expiring
import Resilience.Proofs.Cache.Recency

/-!
# What sweeps leave

All that a turn of the sweeping task can do is listed once (`Expiring.sweep_cases`). It purges the
store or leaves it alone, as a turn does that the task does not survive
(`Expiring.store_sweep_of_not_isAlive`). However often a cache is swept up to an instant, its
store is the one it was but for entries that had expired by then (`Expiring.purgedTo_sweptAt`) :
what is still stored is as it was and has its place in the ranking, and whatever has not expired is
still stored.
-/

namespace Resilience.Cache

variable {V : Type}

namespace Store

/-- All that happened between `s` and `s'` is that entries which had expired by `now` were removed,
and counted. -/
structure PurgedTo (s : Store V) (now : Nat) (s' : Store V) : Prop where
  stored : ∀ (k : String) (e : Entry V), s'.entries[k]? = some e → s.entries[k]? = some e
  kept : ∀ (k : String) (e : Entry V), s.entries[k]? = some e → e.isExpiredAt now = false →
    s'.entries[k]? = some e
  rank : ∀ (k : String) (e : Entry V), s'.entries[k]? = some e →
    s'.ranking.rank? k = s.ranking.rank? k
  settings : s'.settings = s.settings
  hits : s'.statistics.hits = s.statistics.hits
  misses : s'.statistics.misses = s.statistics.misses
  evictions : s'.statistics.evictions = s.statistics.evictions
  expirations : s'.statistics.expirations + s'.size = s.statistics.expirations + s.size

namespace PurgedTo

variable {s s' s'' : Store V} {now : Nat}

theorem refl (s : Store V) (now : Nat) : s.PurgedTo now s where
  stored _ _ := id
  kept _ _ h _ := h
  rank _ _ _ := rfl
  settings := rfl
  hits := rfl
  misses := rfl
  evictions := rfl
  expirations := rfl

/-- What is removed may be removed in two steps. -/
theorem trans (h : s.PurgedTo now s') (h' : s'.PurgedTo now s'') : s.PurgedTo now s'' where
  stored k e he := h.stored k e (h'.stored k e he)
  kept k e he hlive := h'.kept k e (h.kept k e he hlive) hlive
  rank k e he := (h'.rank k e he).trans (h.rank k e (h'.stored k e he))
  settings := h'.settings.trans h.settings
  hits := h'.hits.trans h.hits
  misses := h'.misses.trans h.misses
  evictions := h'.evictions.trans h.evictions
  expirations := h'.expirations.trans h.expirations

/-- What had expired by an instant has expired by every later one. -/
theorem mono {later : Nat} (h : s.PurgedTo now s') (hle : now ≤ later) : s.PurgedTo later s' :=
  { h with
    kept := fun k e he hlive => by
      refine h.kept k e he ?_
      simp only [Entry.isExpiredAt, decide_eq_false_iff_not, Nat.not_lt] at hlive ⊢
      exact Nat.le_trans hle hlive }

end PurgedTo

/-- A purge removes what has expired and nothing else. -/
theorem purgedTo_purge (s : Store V) (now : Nat) : s.PurgedTo now (s.purge now).2 where
  stored k e he := by
    rw [getElem?_purge, Option.filter_eq_some_iff] at he
    exact he.1
  kept k e he hlive := by
    rw [getElem?_purge, he]
    simp [Option.filter, hlive]
  rank k e he := by
    rw [getElem?_purge, Option.filter_eq_some_iff] at he
    have hnot : k ∉ s.expiredKeys now := by
      rw [s.mem_expiredKeys]
      rintro ⟨e', he', hexpired⟩
      rw [he.1] at he'
      cases he'
      simp [hexpired] at he
    show ((s.expiredKeys now).foldl drop s).ranking.rank? k = _
    rw [rank?_drops, if_neg hnot]
  settings := s.settings_perform now .purge
  hits := by rw [s.statistics_purge now]; rfl
  misses := by rw [s.statistics_purge now]; rfl
  evictions := by rw [s.statistics_purge now]; rfl
  expirations := by
    have hsize := s.size_purge_add now
    rw [s.statistics_purge now]
    simp only [Statistics.addExpirations]
    omega

end Store

/-! ## A turn of the sweeping task -/

/-- The task that waits for one interval from now, if the clock reaches that far. -/
def Sweeper.fromNow (interval now : Nat) : Sweeper :=
  if now + interval < Time.limit then .ticking (now + interval) else .failed

namespace Expiring

section Turn

variable (c : Expiring V) (now : Nat)

/-- Whether a turn at `now` handles a tick : one is due, no stop is requested, and the clock has
room for the next one. -/
def handlesTick : Bool :=
  match c.sweeper with
  | .ticking s => !c.stopRequested && Time.fired s now &&
      (Sweeper.rescheduled s c.config.sweepInterval now).isAlive
  | _ => false

variable {c now} in
/-- What a tick that is handled says of the task. -/
theorem of_handlesTick (h : c.handlesTick now = true) :
    ∃ s, c.sweeper = .ticking s ∧ c.stopRequested = false ∧ Time.fired s now = true ∧
      (Sweeper.rescheduled s c.config.sweepInterval now).isAlive = true := by
  unfold handlesTick at h
  split at h
  · simp only [Bool.and_eq_true, Bool.not_eq_true'] at h
    exact ⟨_, ‹_›, h.1.1, h.1.2, h.2⟩
  · cases h

/-- What a tick makes of the cache, whether the clock has room for the next one or not. -/
theorem tick_fst (s : Nat) : (c.tick s now).1 = { c with
    store := if (Sweeper.rescheduled s c.config.sweepInterval now).isAlive
      then (c.store.purge now).2 else c.store
    sweeper := .rescheduled s c.config.sweepInterval now } := by
  simp only [tick]
  split <;> rfl

variable {c now} in
/-- A turn comes to the tick that is due, unless a stop was requested. -/
theorem sweep_eq_tick {s : Nat} (hs : c.sweeper = .ticking s) (hstop : c.stopRequested = false)
    (hfired : Time.fired s now = true) : c.sweep now = c.tick s now := by
  simp [sweep, hs, hstop, hfired]

/-- What a turn finds, and what it makes of the cache : it begins, stops, comes to a tick or does
nothing. The store is purged only if the tick is handled. -/
theorem sweep_cases :
    (c.sweeper = .created ∧ c.handlesTick now = false ∧
        (c.sweep now).1 = { c with sweeper := .fromNow c.config.sweepInterval now }) ∨
      (c.stopRequested = true ∧ c.handlesTick now = false ∧
        (c.sweep now).1 = { c with sweeper := .stopped }) ∨
      (∃ s, c.sweeper = .ticking s ∧ Time.fired s now = true ∧
        c.handlesTick now = (Sweeper.rescheduled s c.config.sweepInterval now).isAlive ∧
        (c.sweep now).1 = { c with
          store := if c.handlesTick now then (c.store.purge now).2 else c.store
          sweeper := .rescheduled s c.config.sweepInterval now }) ∨
      c.isDue now = false ∧ c.handlesTick now = false ∧ (c.sweep now).1 = c := by
  cases hsweeper : c.sweeper with
  | created =>
    refine .inl ⟨rfl, by simp [handlesTick, hsweeper], ?_⟩
    simp only [sweep, hsweeper, begin, Sweeper.fromNow, Time.after?]
    split <;> rename_i h <;> split at h <;> simp_all
  | ticking s =>
    cases hstop : c.stopRequested with
    | true =>
      exact .inr (.inl ⟨rfl, by simp [handlesTick, hsweeper, hstop],
        by simp [sweep, hsweeper, hstop]⟩)
    | false =>
      cases hfired : Time.fired s now with
      | true =>
        have htick : c.handlesTick now =
            (Sweeper.rescheduled s c.config.sweepInterval now).isAlive := by
          simp [handlesTick, hsweeper, hstop, hfired]
        refine .inr (.inr (.inl ⟨s, rfl, hfired, htick, ?_⟩))
        rw [htick, sweep_eq_tick hsweeper hstop hfired, c.tick_fst now s, hstop]
      | false =>
        exact .inr (.inr (.inr ⟨by simp [isDue, hsweeper, hstop, hfired],
          by simp [handlesTick, hsweeper, hfired], by simp [sweep, hsweeper, hstop, hfired]⟩))
  | stopped | failed =>
    exact .inr (.inr (.inr ⟨by simp [isDue, hsweeper], by simp [handlesTick, hsweeper],
      by simp [sweep, hsweeper]⟩))

/-- A turn changes nothing but the store and the task. -/
theorem sweep_eq : (c.sweep now).1 =
    { c with store := (c.sweep now).1.store, sweeper := (c.sweep now).1.sweeper } := by
  rcases c.sweep_cases now with ⟨-, -, h⟩ | ⟨-, -, h⟩ | ⟨s, -, -, -, h⟩ | ⟨-, -, h⟩ <;> rw [h]

theorem sweep_config : (c.sweep now).1.config = c.config := by
  rw [c.sweep_eq now]

/-- A turn that handles a tick purges the store. -/
theorem store_sweep_of_handlesTick (h : c.handlesTick now = true) :
    (c.sweep now).1.store = (c.store.purge now).2 := by
  obtain ⟨s, hs, hstop, hfired, halive⟩ := of_handlesTick h
  rw [sweep_eq_tick hs hstop hfired, c.tick_fst now s, if_pos halive]

/-- A turn that handles no tick leaves the store alone. -/
theorem store_sweep_of_not_handlesTick (h : c.handlesTick now = false) :
    (c.sweep now).1.store = c.store := by
  rcases c.sweep_cases now with ⟨-, -, heq⟩ | ⟨-, -, heq⟩ | ⟨s, -, -, -, heq⟩ | ⟨-, -, heq⟩
  · rw [heq]
  · rw [heq]
  · rw [heq, if_neg (by rw [h]; exact Bool.false_ne_true)]
  · rw [heq]

/-- A turn after which the task is at its end, as one in which it fails, leaves the store alone. -/
theorem store_sweep_of_not_isAlive (h : (c.sweep now).1.sweeper.isAlive = false) :
    (c.sweep now).1.store = c.store := by
  refine c.store_sweep_of_not_handlesTick now (Bool.eq_false_iff.2 fun htick => ?_)
  obtain ⟨s, hs, hstop, hfired, halive⟩ := of_handlesTick htick
  rw [sweep_eq_tick hs hstop hfired, c.tick_fst now s, halive] at h
  cases h

/-- A second before the end of the clock a tick is a second late, so that there is no room for the
next one. -/
example :
    let opened : Expiring Nat := (create {}).1
    let written := (opened.set "a" 7 (some 0) (Time.limit - 3 * Time.second)).1
    let late := { written with sweeper := .ticking (Time.limit - 2 * Time.second) }
    let c := (late.sweep (Time.limit - Time.second)).1
    late.store.expiredKeys (Time.limit - Time.second) = ["a"] ∧ c.sweeper = .failed ∧
      c.store.size = 1 := by
  decide +kernel

end Turn

/-- A turn with nothing due does nothing. -/
theorem sweep_of_not_due {c : Expiring V} {now : Nat} (h : c.isDue now = false) :
    c.sweep now = (c, []) := by
  unfold isDue at h
  unfold sweep
  split at h <;> simp_all

/-! ## Rounds in the background -/

/-- The cache after rounds in the background at these instants. -/
def sweptAt (c : Expiring V) (instants : List Nat) : Expiring V :=
  instants.foldl (fun c t => (c.sweep t).1) c

theorem sweptAt_append (c : Expiring V) (instants : List Nat) (t : Nat) :
    c.sweptAt (instants ++ [t]) = ((c.sweptAt instants).sweep t).1 := by
  simp [sweptAt]

/-- A turn of the sweeping task removes at most what has expired. -/
theorem purgedTo_sweep (c : Expiring V) (now : Nat) :
    c.store.PurgedTo now (c.sweep now).1.store := by
  cases htick : c.handlesTick now with
  | false =>
    rw [c.store_sweep_of_not_handlesTick now htick]
    exact .refl c.store now
  | true =>
    rw [c.store_sweep_of_handlesTick now htick]
    exact c.store.purgedTo_purge now

/-- Any number of rounds up to an instant removes at most what has expired by then. -/
theorem purgedTo_sweptAt (c : Expiring V) {instants : List Nat} {now : Nat}
    (h : ∀ t ∈ instants, t ≤ now) : c.store.PurgedTo now (c.sweptAt instants).store := by
  induction instants generalizing c with
  | nil => exact .refl c.store now
  | cons t instants ih =>
    have hfirst := (c.purgedTo_sweep t).mono (h t List.mem_cons_self)
    exact hfirst.trans (ih (c.sweep t).1 fun u hu => h u (List.mem_cons_of_mem _ hu))

end Expiring

end Resilience.Cache
