import Resilience.Proofs.Cache.Life
import Resilience.Proofs.Cancellation.Waits

/-!
# How long an expired entry may stay

What is stored has not expired before the last tick (`Life.Fresh`) : a tick removes all that has,
and what is written later expires later. That holds of every life, however late the sweeping task
takes its turns.

If the clock moves only when nothing is due and never past the next tick (`Life.InOrder`) then the
ticks come when they should, one interval after the other from the opening of the cache on
(`Life.Punctual`). So the next tick is never further away from the last one than an interval and the
millisecond to which timers are rounded, and no entry is stored longer than that after its expiry
(`Life.Punctual.le_expiresAt`). Where the clock ends before the next tick the cache is swept no
more, and no entry gets that old.
-/

namespace Resilience.Cache

variable {V : Type}

/-! ## What is stored -/

/-- What is stored after a request was stored before, or has only just been written. -/
theorem Store.stored_or_le_expiresAt {s : Store V} {now : Nat} {r : Request V} {k : String}
    {e : Entry V} (h : (s.perform now r).2.entries[k]? = some e) :
    s.entries[k]? = some e ∨ now ≤ e.expiresAt := by
  rcases s.getElem?_perform now r k with ⟨value, ttl?, -, hwritten⟩ | ⟨-, ⟨-, hnone⟩ | ⟨-, hkept⟩⟩
  · rw [hwritten] at h
    cases h
    exact .inr (Time.le_after _ _)
  · rw [hnone] at h
    cases h
  · rcases hkept with hsame | ⟨hnone, -⟩
    · exact .inl (hsame ▸ h)
    · rw [hnone] at h
      cases h

/-- What a purge leaves is what has not expired. -/
theorem Store.stored_purge_iff {s : Store V} {now : Nat} {k : String} {e : Entry V} :
    (s.purge now).2.entries[k]? = some e ↔ s.entries[k]? = some e ∧ now ≤ e.expiresAt := by
  rw [getElem?_purge, Option.filter_eq_some_iff]
  simp [Entry.isExpiredAt]

namespace Life

/-- The instant of the last tick, or the one at which the cache was opened. -/
def lastTick (l : Life V) (start : Nat) : Nat := l.ticks.getLastD start

/-- What is stored has not expired before the last tick. -/
structure Fresh (start : Nat) (l : Life V) : Prop where
  lastTick_le : l.lastTick start ≤ l.now
  stored : ∀ (k : String) (e : Entry V), l.cache.store.entries[k]? = some e →
    l.lastTick start ≤ e.expiresAt

theorem fresh_opened (config : Config) (start : Nat) :
    (opened config start : Life V).Fresh start where
  lastTick_le := Nat.le_refl _
  stored k e h := by simp [opened, Expiring.create, Store.empty] at h

/-- Whatever occurs, what is stored has not expired before the last tick. -/
theorem Fresh.act {start : Nat} {l : Life V} (h : l.Fresh start) (o : Occurrence V) :
    (l.act o).Fresh start := by
  cases o with
  | use u =>
    rw [Life.act, Expiring.use_eq]
    refine ⟨h.lastTick_le, fun k e he => ?_⟩
    rcases Store.stored_or_le_expiresAt he with hstored | hwritten
    · exact h.stored k e hstored
    · exact Nat.le_trans h.lastTick_le hwritten
  | turn =>
    cases htick : l.cache.handlesTick l.now with
    | false =>
      have hstore := l.cache.store_sweep_of_not_handlesTick l.now htick
      have hlast : (l.act .turn).lastTick start = l.lastTick start := by
        simp [Life.act, lastTick, htick]
      exact ⟨hlast ▸ h.lastTick_le, fun k e he => hlast ▸ h.stored k e (hstore ▸ he)⟩
    | true =>
      have hstore := l.cache.store_sweep_of_handlesTick l.now htick
      have hlast : (l.act .turn).lastTick start = l.now := by simp [Life.act, lastTick, htick]
      refine ⟨Nat.le_of_eq hlast, fun k e he => ?_⟩
      rw [hlast]
      exact (Store.stored_purge_iff.1 (hstore ▸ he)).2
  | shutdown =>
    simp only [Life.act, Expiring.shutdown]
    split <;> exact ⟨h.lastTick_le, h.stored⟩
  | passage d =>
    simp only [Life.act]
    split
    · exact ⟨Nat.le_trans h.lastTick_le (Nat.le_add_right _ _), h.stored⟩
    · exact h

end Life

/-! ## When the ticks come -/

/-- Where the sweeping task stands if it was begun at `start`, takes its turns in time and has
handled `n` ticks, the last one at `last`. -/
def Sweeper.OnTime (start interval n last now : Nat) : Sweeper → Prop
  | .created => n = 0 ∧ last = start ∧ now = start
  | .ticking s => now ≤ Time.tick s ∧
      (start + (n + 1) * interval < Time.limit → s = start + (n + 1) * interval) ∧
      (s ≤ last + interval ∨ Time.limit ≤ last + interval)
  | .stopped => False
  | .failed => Time.limit ≤ last + interval

namespace Sweeper.OnTime

variable {start interval n last now s : Nat}

/-- A task that begins in time waits for its first tick. -/
theorem fromNow (h : OnTime start interval n last now .created) :
    OnTime start interval n last now (.fromNow interval now) := by
  obtain ⟨rfl, rfl, rfl⟩ := h
  unfold Sweeper.fromNow
  split
  · refine ⟨?_, fun _ => by omega, .inl (Nat.le_refl _)⟩
    exact Nat.le_trans (Nat.le_add_right _ _) (Time.le_tick _)
  · exact Nat.le_of_not_lt ‹_›

/-- A tick that is handled in time is handled at the first whole millisecond. -/
theorem now_eq (h : OnTime start interval n last now (.ticking s))
    (hfired : Time.fired s now = true) : now = Time.tick s :=
  Nat.le_antisymm h.1 (Time.fired_iff.1 hfired)

/-- A task in time is never more than a millisecond late. -/
theorem not_late (h : OnTime start interval n last now (.ticking s)) : ¬s + tolerance < now := by
  have hle := h.1
  have htick := Time.tick_lt s
  simp only [tolerance, Time.millisecond] at *
  omega

theorem isAlive_rescheduled (h : OnTime start interval n last now (.ticking s)) :
    (Sweeper.rescheduled s interval now).isAlive = true := by
  rw [Sweeper.rescheduled, if_neg h.not_late]
  rfl

/-- Such a tick puts off none of those after it. -/
theorem rescheduled (h : OnTime start interval n last now (.ticking s))
    (hfired : Time.fired s now = true) :
    OnTime start interval (n + 1) now now (.rescheduled s interval now) := by
  have hnow := h.now_eq hfired
  have hlate := h.not_late
  obtain ⟨-, hs, -⟩ := h
  have hle : s ≤ now := Time.le_of_fired hfired
  have hnext : start + (n + 1 + 1) * interval = start + (n + 1) * interval + interval := by
    rw [Nat.add_mul (n + 1), Nat.one_mul, Nat.add_assoc]
  rw [Sweeper.rescheduled, if_neg hlate, Time.after?]
  split
  · refine ⟨?_, fun hlimit => ?_, .inl (Nat.add_le_add_right hle _)⟩
    · rw [hnow]
      exact Time.tick_mono (Nat.le_add_right _ _)
    · rw [hnext] at hlimit ⊢
      exact congrArg (· + interval) (hs (by omega))
  · refine ⟨Nat.le_trans (Nat.le_add_right _ _) (Time.le_tick _), fun hlimit => ?_,
      .inr (by omega)⟩
    rw [hnext] at hlimit
    have := hs (by omega)
    omega

end Sweeper.OnTime

namespace Life

/-- The clock moves only when nothing is due, and never past the next tick. -/
def Timely (l : Life V) : Occurrence V → Prop
  | .passage d => l.cache.isDue l.now = false ∧ ∀ t ∈ l.cache.nextTick?, l.now + d ≤ t
  | .use _ | .turn | .shutdown => True

/-- Timers fire in order, all along. -/
def InOrder (l : Life V) : List (Occurrence V) → Prop
  | [] => True
  | o :: occurrences => l.Timely o ∧ (l.act o).InOrder occurrences

instance (l : Life V) : ∀ o, Decidable (l.Timely o)
  | .passage _ => inferInstanceAs (Decidable (_ ∧ _))
  | .use _ | .turn | .shutdown => .isTrue trivial

instance decidableInOrder (l : Life V) : ∀ occurrences, Decidable (l.InOrder occurrences)
  | [] => .isTrue trivial
  | o :: occurrences =>
    @instDecidableAnd _ _ _ (decidableInOrder (l.act o) occurrences)

/-- The ticks came one interval after the other, and so will the next one. -/
structure Punctual (start interval : Nat) (l : Life V) : Prop where
  interval_eq : l.cache.config.sweepInterval = interval
  now_lt : l.now < Time.limit
  onTime : l.cache.stopRequested = false →
    l.cache.sweeper.OnTime start interval l.ticks.length (l.lastTick start) l.now
  ticks : ∀ (k t : Nat), l.ticks[k]? = some t → start + (k + 1) * interval < Time.limit →
    t = Time.tick (start + (k + 1) * interval)

/-- A new cache is punctual. -/
theorem punctual_opened (config : Config) {start : Nat} (hstart : start < Time.limit) :
    (opened config start : Life V).Punctual start config.coerced.sweepInterval where
  interval_eq := rfl
  now_lt := hstart
  onTime _ := ⟨rfl, rfl, rfl⟩
  ticks k t h := by simp [opened] at h

namespace Punctual

variable {start interval : Nat} {l : Life V}

/-- The tick handled by a turn is the next one. -/
theorem tick_eq (h : l.Punctual start interval) (htick : l.cache.handlesTick l.now = true)
    (hlimit : start + (l.ticks.length + 1) * interval < Time.limit) :
    l.now = Time.tick (start + (l.ticks.length + 1) * interval) := by
  obtain ⟨s, hs, hstop, hfired, -⟩ := Expiring.of_handlesTick htick
  have hon := h.onTime hstop
  rw [hs] at hon
  rw [← hon.2.1 hlimit]
  exact hon.now_eq hfired

/-- A turn of the task leaves the cache punctual. -/
theorem turn (h : l.Punctual start interval) : (l.act .turn).Punctual start interval := by
  have hconfig := (config_act l .turn).1
  refine ⟨hconfig ▸ h.interval_eq, h.now_lt, fun hstop => ?_, fun k t hk hlimit => ?_⟩
  · have hstop' := stopRequested_act hstop
    have hon := h.onTime hstop'
    simp only [act]
    rcases l.cache.sweep_cases l.now with ⟨hs, htick, heq⟩ | ⟨hstopped, -, -⟩ |
      ⟨s, hs, hfired, htick, heq⟩ | ⟨-, htick, heq⟩
    · rw [hs] at hon
      rw [heq, htick, h.interval_eq]
      exact hon.fromNow
    · rw [hstop'] at hstopped
      cases hstopped
    · rw [hs] at hon
      rw [h.interval_eq, hon.isAlive_rescheduled] at htick
      rw [heq, if_pos htick, h.interval_eq]
      simpa [lastTick] using hon.rescheduled hfired
    · rw [heq, htick]
      exact hon
  · simp only [act] at hk
    split at hk <;> rename_i htick
    · by_cases hlt : k < l.ticks.length
      · rw [List.getElem?_append_left hlt] at hk
        exact h.ticks k t hk hlimit
      · obtain ⟨rfl, rfl⟩ : k = l.ticks.length ∧ l.now = t := by
          rw [List.getElem?_append_right (Nat.le_of_not_lt hlt), List.getElem?_singleton] at hk
          split at hk
          · exact ⟨by omega, Option.some.inj hk⟩
          · cases hk
        exact h.tick_eq htick hlimit
    · exact h.ticks k t hk hlimit

theorem passage (h : l.Punctual start interval) {d : Nat} (htimely : l.Timely (.passage d)) :
    (l.act (.passage d)).Punctual start interval := by
  simp only [act]
  split <;> rename_i hlimit
  · refine ⟨h.interval_eq, hlimit, fun hstop => ?_, h.ticks⟩
    have hon := h.onTime hstop
    obtain ⟨hdue, hnext⟩ := htimely
    cases hs : l.cache.sweeper with
    | created => simp [Expiring.isDue, hs] at hdue
    | ticking s =>
      rw [hs] at hon
      exact ⟨hnext _ (by simp [Expiring.nextTick?, hs]), hon.2⟩
    | stopped =>
      rw [hs] at hon
      exact hon.elim
    | failed =>
      rw [hs] at hon
      exact hon
  · exact h

theorem act (h : l.Punctual start interval) {o : Occurrence V} (htimely : l.Timely o) :
    (l.act o).Punctual start interval := by
  cases o with
  | use u =>
    rw [Life.act, Expiring.use_eq]
    exact ⟨h.interval_eq, h.now_lt, h.onTime, h.ticks⟩
  | turn => exact h.turn
  | shutdown =>
    simp only [Life.act, Expiring.shutdown]
    split
    · exact h
    · exact ⟨h.interval_eq, h.now_lt, fun hstop => absurd hstop (Bool.noConfusion ·), h.ticks⟩
  | passage d => exact h.passage htimely

/-- A cache whose timers fire in order is punctual all along. -/
theorem run (h : l.Punctual start interval) {occurrences : List (Occurrence V)}
    (horder : l.InOrder occurrences) : (l.run occurrences).Punctual start interval := by
  induction occurrences generalizing l with
  | nil => exact h
  | cons o occurrences ih => exact ih (h.act horder.1) horder.2

/-- No entry is stored longer after its expiry than from one tick to the next. -/
theorem le_expiresAt (h : l.Punctual start interval) (hfresh : l.Fresh start)
    (hstop : l.cache.stopRequested = false) {k : String} {e : Entry V}
    (he : l.cache.store.entries[k]? = some e) :
    l.now ≤ e.expiresAt + interval + Time.millisecond := by
  have hlast := hfresh.stored k e he
  have hon := h.onTime hstop
  have hnow := h.now_lt
  cases hs : l.cache.sweeper with
  | created =>
    rw [hs] at hon
    obtain ⟨-, hlast', hnow'⟩ := hon
    omega
  | ticking s =>
    rw [hs] at hon
    obtain ⟨hle, -, hnext⟩ := hon
    have htick := Time.tick_lt s
    omega
  | stopped =>
    rw [hs] at hon
    exact hon.elim
  | failed =>
    rw [hs] at hon
    have hend : Time.limit ≤ l.lastTick start + interval := hon
    omega

end Punctual

/-- As long as a cache has not been asked to stop, however it is used and however time passes : what
is stored has not expired before the last tick, and a tick removes exactly what has expired before
it. If timers fire in order then nothing is stored for more than an interval and a millisecond after
its expiry, and the ticks come at the first whole milliseconds after one, two and more intervals
from the opening on, as far as the clock reaches. -/
theorem staleness_bounded (config : Config) {start : Nat} (hstart : start < Time.limit)
    (occurrences : List (Occurrence V)) :
    let interval := config.coerced.sweepInterval
    let l := (opened config start : Life V).run occurrences
    l.cache.stopRequested = false →
      (∀ (T : Nat) (k : String) (e : Entry V), l.ticks.getLast? = some T →
        l.cache.store.entries[k]? = some e → T ≤ e.expiresAt) ∧
      (l.cache.handlesTick l.now = true → (l.act .turn).ticks = l.ticks ++ [l.now] ∧
        ∀ (k : String) (e : Entry V), (l.act .turn).cache.store.entries[k]? = some e ↔
          l.cache.store.entries[k]? = some e ∧ l.now ≤ e.expiresAt) ∧
      ((opened config start : Life V).InOrder occurrences →
        (∀ (k : String) (e : Entry V), l.cache.store.entries[k]? = some e →
          l.now ≤ e.expiresAt + interval + Time.millisecond) ∧
        ∀ (k t : Nat), l.ticks[k]? = some t → start + (k + 1) * interval < Time.limit →
          t = Time.tick (start + (k + 1) * interval)) := by
  intro interval l hstop
  have hfresh : l.Fresh start := run_of_act (fun _ o h => h.act o) (fresh_opened config start) _
  refine ⟨fun T k e hT he => ?_, fun htick => ?_, fun horder => ?_⟩
  · have hlast : l.lastTick start = T := by
      rw [lastTick, List.getLastD_eq_getLast?, hT, Option.getD_some]
    exact hlast ▸ hfresh.stored k e he
  · refine ⟨if_pos htick, fun k e => ?_⟩
    simp only [act, l.cache.store_sweep_of_handlesTick l.now htick]
    exact Store.stored_purge_iff
  · have hpunctual : l.Punctual start interval := (punctual_opened config hstart).run horder
    exact ⟨fun k e he => hpunctual.le_expiresAt hfresh hstop he, hpunctual.ticks⟩

/-- A cache that is swept every 1.5 ms. What is written after the tick at 2 ms expires at 3 ms, is
not removed by the tick of that instant, and so stays until 5 ms : longer than an interval. -/
theorem staleness_bounded_of_rounded_ticks :
    let config := ({} : Config).withSweepInterval 1500000
    let interval := config.coerced.sweepInterval
    let occurrences : List (Occurrence Nat) :=
      [.turn, .passage (2 * Time.millisecond), .turn, .use (.set "a" 7 (some 0)),
        .passage Time.millisecond, .turn, .passage (2 * Time.millisecond)]
    let l := (opened config 0 : Life Nat).run occurrences
    interval = 1500000 ∧ 0 < Time.limit ∧ l.cache.stopRequested = false ∧
      (opened config 0 : Life Nat).InOrder occurrences ∧
      l.now = 5 * Time.millisecond ∧ l.cache.handlesTick l.now = true ∧
      l.ticks = [2 * Time.millisecond, 3 * Time.millisecond] ∧
      3 * Time.millisecond = Time.tick (0 + (1 + 1) * interval) ∧
      ∃ e : Entry Nat, l.cache.store.entries["a"]? = some e ∧
        e.expiresAt = 3 * Time.millisecond ∧ 3 * Time.millisecond ≤ e.expiresAt ∧
        l.now ≤ e.expiresAt + interval + Time.millisecond ∧
        (l.act .turn).cache.store.entries["a"]? ≠ some e := by
  intro config interval occurrences l
  have hlimit : 0 < Time.limit := by decide +kernel
  have hstop : l.cache.stopRequested = false := by decide +kernel
  have horder : (opened config 0 : Life Nat).InOrder occurrences := by decide +kernel
  have hnow : l.now = 5 * Time.millisecond := by decide +kernel
  have htick : l.cache.handlesTick l.now = true := by decide +kernel
  have hticks : l.ticks = [2 * Time.millisecond, 3 * Time.millisecond] := by decide +kernel
  have hexpires :
      l.cache.store.entries["a"]?.map Entry.expiresAt = some (3 * Time.millisecond) := by
    decide +kernel
  obtain ⟨e, he, hexpires⟩ := Option.map_eq_some_iff.1 hexpires
  have hl : (opened config 0 : Life Nat).run occurrences = l := by with_reducible rfl
  have hbounds := staleness_bounded config hlimit occurrences
  simp only [hl] at hbounds
  obtain ⟨hfresh, hremoved, hbounded⟩ := hbounds hstop
  obtain ⟨hage, hschedule⟩ := hbounded horder
  refine ⟨by decide +kernel, hlimit, hstop, horder, hnow, htick, hticks, ?_, e, he, hexpires,
    hfresh _ "a" e (by rw [hticks]; rfl) he, hage "a" e he, fun hkept => ?_⟩
  · exact hschedule 1 _ (by rw [hticks]; rfl) (by decide +kernel)
  · have hlive := (((hremoved htick).2 "a" e).1 hkept).2
    rw [hnow, hexpires] at hlive
    exact absurd hlive (by decide)

end Life

end Resilience.Cache
