import Resilience.Proofs.Cache.Upkeep

/-!
# The end of the sweep

What a cache reports of its end is accounted for by how it stands (`Upkeep.Accounted`), so that the
request to stop is reported once at most, and so is the end of the sweeping task.

If no tick is being handled when the task is asked to stop then none is from then on, even if one is
due at that very instant. The cache goes on as its store would by itself, with which every deed
leaves it in step (`Usage.Mirrors`). The number of turns that the task has left gets less with each
of them and with no deed of others more (`Upkeep.turnsLeft_run_le`), so that it ends however its
turns are mixed with these.
-/

namespace Resilience

open Telemetry (Event)

namespace Telemetry

/-- Whether the event is a log entry with this message. -/
def Event.hasMessage (message : String) : Event → Bool
  | .logged _ text _ => text == message
  | _ => false

/-- How many of the events are log entries with this message. -/
def entries (message : String) (events : List Event) : Nat := events.countP (·.hasMessage message)

section Entries

variable (message text : String) (fields : List Field)

@[simp] theorem Event.hasMessage_debug :
    (Event.debug text fields).hasMessage message = (text == message) := rfl

@[simp] theorem Event.hasMessage_info :
    (Event.info text fields).hasMessage message = (text == message) := rfl

@[simp] theorem Event.hasMessage_opened (span : String) :
    (Event.opened span).hasMessage message = false := rfl

@[simp] theorem Event.hasMessage_noted (span key value : String) :
    (Event.noted span key value).hasMessage message = false := rfl

@[simp] theorem Event.hasMessage_closed (span : String) :
    (Event.closed span).hasMessage message = false := rfl

@[simp] theorem entries_nil : entries message [] = 0 := rfl

@[simp] theorem entries_cons (e : Event) (es : List Event) :
    entries message (e :: es) = entries message es + if e.hasMessage message then 1 else 0 :=
  List.countP_cons

@[simp] theorem entries_append (es es' : List Event) :
    entries message (es ++ es') = entries message es + entries message es' :=
  List.countP_append

end Entries

end Telemetry

namespace Cache

open Telemetry (entries entries_append)

variable {V : Type}

/-! ## What is reported -/

/-- A use is reported by the entries on what it gave up or cleared and by no others. -/
theorem Use.entries_report {message : String} (hevicted : message ≠ "cache evicted entry")
    (hcleared : message ≠ "cache cleared") (policy : Policy) (x : Use V) (reply : Reply V) :
    entries message (x.report policy reply) = 0 := by
  unfold Use.report
  split
  · rename_i key?
    cases key? <;> simp [Expiring.evictionEvents, hevicted.symm]
  all_goals simp [hcleared.symm]

/-- One, if the task has stopped. -/
def Sweeper.ended (s : Sweeper) : Nat := if s = .stopped then 1 else 0

theorem Sweeper.ended_le (s : Sweeper) : s.ended ≤ 1 := by
  unfold ended
  split <;> omega

/-- A tick makes a task neither stop nor begin again. -/
theorem Sweeper.rescheduled_ne (s interval now : Nat) :
    rescheduled s interval now ≠ .stopped ∧ rescheduled s interval now ≠ .created := by
  unfold rescheduled
  split
  · split <;> exact ⟨nofun, nofun⟩
  · exact ⟨nofun, nofun⟩

theorem Sweeper.ended_rescheduled (s interval now : Nat) :
    (rescheduled s interval now).ended = 0 :=
  if_neg (rescheduled_ne s interval now).1

namespace Expiring

/-- What is reported accounts for what has become of the cache. -/
structure Reports (c : Expiring V) (made : Expiring V × List Event) : Prop where
  shutDown : made.1.stopRequested.toNat =
    c.stopRequested.toNat + entries "cache shut down" made.2
  stopped : made.1.sweeper.ended = c.sweeper.ended + entries "cache sweep stopped" made.2
  /-- A task that has begun does not begin again. -/
  begun : made.1.sweeper = .created → c.sweeper = .created

variable (c : Expiring V) (now : Nat)

theorem reports_serve (x : Use V) : c.Reports (c.serve now x).2 := by
  rw [serve_eq]
  exact
    { shutDown := by rw [outcome, Use.entries_report (by decide) (by decide)]; rfl
      stopped := by rw [outcome, Use.entries_report (by decide) (by decide)]; rfl
      begun := id }

theorem reports_handle : c.Reports (c.handle now) := by
  unfold handle
  simp only
  split
  · exact ⟨rfl, rfl, id⟩
  · exact ⟨by simp, by simp, id⟩

/-- The first request to stop is reported, and no later one. -/
theorem reports_shutdown : c.Reports c.shutdown := by
  unfold shutdown
  split
  · exact ⟨rfl, rfl, id⟩
  · rename_i hstop
    exact ⟨by simp [hstop], by simp, id⟩

/-- The end of the task is reported by the turn in which it stops, and not by one in which it
fails. -/
theorem reports_sweep (h : c.handlesTick now = false) : c.Reports (c.sweep now) := by
  cases hs : c.sweeper with
  | created =>
    have hsweep : c.sweep now = c.begin now := by simp [sweep, hs]
    rw [hsweep]
    unfold begin
    exact
      { shutDown := by simp
        stopped := by
          cases Time.after? now c.config.sweepInterval <;> simp [hs, Sweeper.ended]
        begun := fun _ => hs }
  | ticking s =>
    by_cases hstop : c.stopRequested = true
    · have hsweep : c.sweep now =
          ({ c with sweeper := .stopped }, [.debug "cache sweep stopped"]) := by
        simp [sweep, hs, hstop]
      rw [hsweep]
      exact ⟨by simp, by simp [hs, Sweeper.ended], Sweeper.noConfusion⟩
    · cases hfired : Time.fired s now with
      | true =>
        have halive : (Sweeper.rescheduled s c.config.sweepInterval now).isAlive = false := by
          simpa [handlesTick, hs, hstop, hfired] using h
        have hsweep : c.sweep now =
            ({ c with sweeper := .rescheduled s c.config.sweepInterval now }, []) := by
          rw [sweep_eq_tick hs (Bool.eq_false_iff.2 hstop) hfired]
          simp [tick, halive]
        rw [hsweep]
        exact ⟨rfl, by rw [hs, Sweeper.ended_rescheduled]; rfl,
          fun hcreated => absurd hcreated (Sweeper.rescheduled_ne _ _ _).2⟩
      | false =>
        have hdue : c.isDue now = false := by simp [isDue, hs, hstop, hfired]
        rw [sweep_of_not_due hdue]
        exact ⟨rfl, rfl, id⟩
  | stopped | failed =>
    have hdue : c.isDue now = false := by simp [isDue, hs]
    rw [sweep_of_not_due hdue]
    exact ⟨rfl, rfl, id⟩

/-- The task after it took a tick. -/
theorem sweeper_of_handlesTick {c : Expiring V} {now : Nat} (h : c.handlesTick now = true) :
    c.sweeper.ended = 0 ∧ (c.sweep now).1.sweeper.ended = 0 ∧
      (c.sweep now).1.sweeper ≠ .created := by
  obtain ⟨s, hs, hstop, hfired, -⟩ := of_handlesTick h
  rw [sweep_eq_tick hs hstop hfired, c.tick_fst now s, hs]
  exact ⟨rfl, Sweeper.ended_rescheduled _ _ _, (Sweeper.rescheduled_ne _ _ _).2⟩

end Expiring

namespace Upkeep

/-- What was reported of the end, and how the cache stands. -/
structure Accounted (u : Upkeep V) : Prop where
  shutDown : entries "cache shut down" u.reported = u.cache.stopRequested.toNat
  stopped : entries "cache sweep stopped" u.reported = u.cache.sweeper.ended
  /-- A task that handles a tick has begun. -/
  begun : u.handling = true → u.cache.sweeper ≠ .created

/-- Of a new cache nothing is reported but that it is there. -/
theorem accounted_opened (config : Config) (start : Nat) :
    (opened config start : Upkeep V).Accounted where
  shutDown := by simp [opened, Expiring.create]
  stopped := by simp [opened, Expiring.create, Sweeper.ended]
  begun h := by cases h

namespace Accounted

variable {u : Upkeep V}

/-- What accounts for itself may be added to an account. -/
theorem put (h : u.Accounted) {made : Expiring V × List Event} (hmade : u.cache.Reports made) :
    (u.put made).Accounted where
  shutDown := by
    rw [Upkeep.put, entries_append, h.shutDown]
    exact hmade.shutDown.symm
  stopped := by
    rw [Upkeep.put, entries_append, h.stopped]
    exact hmade.stopped.symm
  begun hhandling hcreated := h.begun hhandling (hmade.begun hcreated)

theorem goOn (h : u.Accounted) : u.goOn.Accounted := by
  unfold Upkeep.goOn
  split
  · obtain ⟨hshutDown, hstopped, -⟩ := h.put (u.cache.reports_handle u.now)
    exact ⟨hshutDown, hstopped, nofun⟩
  · split
    · rename_i htick
      obtain ⟨hbefore, hafter, hbegun⟩ := Expiring.sweeper_of_handlesTick htick
      exact ⟨h.shutDown, h.stopped.trans (hbefore.trans hafter.symm), fun _ => hbegun⟩
    · rename_i htick
      exact h.put (u.cache.reports_sweep u.now (by simpa using htick))

/-- Every deed is accounted for. -/
theorem act (h : u.Accounted) (d : Deed V) : (u.act d).Accounted := by
  cases d with
  | use x => exact h.put (u.cache.reports_serve u.now x)
  | passage d => exact ⟨h.shutDown, h.stopped, h.begun⟩
  | turn => exact h.goOn
  | shutdown => exact h.put u.cache.reports_shutdown
  | shutdownAndWait =>
    obtain ⟨hshutDown, hstopped, hbegun⟩ := h.put u.cache.reports_shutdown
    exact ⟨hshutDown, hstopped, hbegun⟩

/-- However a cache is used, swept and shut down, what was reported accounts for how it stands. -/
theorem run (h : u.Accounted) (deeds : List (Deed V)) : (u.run deeds).Accounted :=
  run_of_act (fun _ d h => h.act d) h deeds

end Accounted

end Upkeep

/-! ## The end of the task -/

/-- Turns that the task takes to its end once it was asked to stop. -/
def Sweeper.turnsLeft : Sweeper → Nat
  | created => 2
  | ticking _ => 1
  | stopped | failed => 0

/-- A turn of a task that was asked to stop brings it nearer to its end. -/
theorem Expiring.turnsLeft_sweep {c : Expiring V} (hstop : c.stopRequested = true) (now : Nat) :
    (c.sweep now).1.sweeper.turnsLeft ≤ c.sweeper.turnsLeft - 1 := by
  cases hs : c.sweeper with
  | created =>
    cases hnext : Time.after? now c.config.sweepInterval <;>
      simp [sweep, hs, begin, hnext, Sweeper.turnsLeft]
  | ticking s => simp [sweep, hs, hstop, Sweeper.turnsLeft]
  | stopped | failed => simp [sweep, hs, Sweeper.turnsLeft]

namespace Upkeep

variable {u : Upkeep V}

/-- Turns to the end of the task, with the one that handles the tick it has taken. -/
def turnsLeft (u : Upkeep V) : Nat := u.handling.toNat + u.cache.sweeper.turnsLeft

/-- No turn of the task makes a difference any more. -/
def HasEnded (u : Upkeep V) : Prop := u.handling = false ∧ u.cache.sweeper.isAlive = false

/-- A task has ended if it has no turn left. -/
theorem hasEnded_iff : u.HasEnded ↔ u.turnsLeft = 0 := by
  unfold HasEnded turnsLeft
  cases u.handling <;> cases u.cache.sweeper <;> simp [Sweeper.turnsLeft, Sweeper.isAlive]

theorem Accounted.turnsLeft_le (h : u.Accounted) : u.turnsLeft ≤ 2 := by
  unfold turnsLeft
  cases hhandling : u.handling with
  | false => cases u.cache.sweeper <;> simp [Sweeper.turnsLeft]
  | true =>
    have hbegun := h.begun hhandling
    cases hs : u.cache.sweeper with
    | created => exact absurd hs hbegun
    | ticking _ | stopped | failed => simp [Sweeper.turnsLeft]

/-- A request to stop is never taken back. -/
theorem stopRequested_act (h : u.cache.stopRequested = true) (d : Deed V) :
    (u.act d).cache.stopRequested = true := by
  cases d with
  | use x =>
    rw [act, Expiring.serve_eq]
    exact h
  | passage d => exact h
  | turn =>
    rw [act, cache_goOn]
    exact h
  | shutdown | shutdownAndWait => simp [act, put, detach, Expiring.shutdown, h]

theorem turnsLeft_goOn_le (h : u.cache.stopRequested = true) :
    u.goOn.turnsLeft ≤ u.turnsLeft - 1 := by
  cases hhandling : u.handling with
  | true => simp [goOn, hhandling, turnsLeft, put, Expiring.handle]
  | false =>
    rw [goOn_eq hhandling (Expiring.not_handlesTick_of_stopRequested h u.now)]
    simpa [turnsLeft, put, hhandling] using Expiring.turnsLeft_sweep h u.now

/-- A turn of the task leaves one fewer, and no deed of others leaves more. -/
theorem turnsLeft_act_le (h : u.cache.stopRequested = true) (d : Deed V) :
    (u.act d).turnsLeft ≤ u.turnsLeft - d.isTurn.toNat := by
  cases d with
  | turn => exact turnsLeft_goOn_le h
  | use x =>
    rw [act, Expiring.serve_eq]
    exact Nat.le_refl _
  | passage d => exact Nat.le_refl _
  | shutdown | shutdownAndWait =>
    simp [act, put, detach, Expiring.shutdown, h, turnsLeft, Deed.isTurn]

/-- The deeds of others do not keep the task from its end. -/
theorem turnsLeft_run_le (h : u.cache.stopRequested = true) (deeds : List (Deed V)) :
    (u.run deeds).turnsLeft ≤ u.turnsLeft - deeds.countP Deed.isTurn := by
  induction deeds generalizing u with
  | nil => exact Nat.le_refl _
  | cons d deeds ih =>
    have hfirst := turnsLeft_act_le h d
    have hrest := ih (stopRequested_act h d)
    rw [List.countP_cons]
    show ((u.act d).run deeds).turnsLeft ≤ _
    cases hd : d.isTurn <;> simp only [hd, Bool.toNat_true, Bool.toNat_false] at hfirst <;>
      simp only [Bool.false_eq_true, if_true, if_false] <;> omega

/-- A task that was asked to stop has ended with its second turn. -/
theorem Accounted.hasEnded_run (h : u.Accounted) (hstop : u.cache.stopRequested = true)
    {deeds : List (Deed V)} (hturns : 2 ≤ deeds.countP Deed.isTurn) : (u.run deeds).HasEnded := by
  have hle := h.turnsLeft_le
  have hleft := turnsLeft_run_le hstop deeds
  rw [hasEnded_iff]
  omega

/-- Nobody asks for a task again once it is waited for. -/
theorem attached_act (h : u.cache.attached = false) (d : Deed V) :
    (u.act d).cache.attached = false := by
  cases d with
  | use x =>
    rw [act, Expiring.serve_eq]
    exact h
  | passage d => exact h
  | turn =>
    rw [act, cache_goOn]
    exact h
  | shutdown =>
    simp only [act, put, Expiring.shutdown]
    split <;> exact h
  | shutdownAndWait => rfl

/-- What nobody asks for is not seen running, whatever becomes of the cache. -/
theorem isRunning_run (h : u.cache.attached = false) (deeds : List (Deed V)) :
    (u.run deeds).cache.isRunning = false := by
  have hattached : (u.run deeds).cache.attached = false :=
    run_of_act (P := fun u => u.cache.attached = false) (fun _ d h => attached_act h d) h deeds
  rw [Expiring.isRunning, hattached, Bool.false_and]

end Upkeep

/-! ## In step with the store -/

namespace Store

/-- Uses do not remove what has expired. -/
theorem expirations_perform (s : Store V) (now : Nat) (x : Use V) :
    (s.perform now x.request).2.statistics.expirations = s.statistics.expirations := by
  cases x with
  | set key value ttl? =>
    rw [Use.request, perform_set]
    show (s.setFor key value _ now).2.statistics.expirations = _
    unfold setFor
    cases s.needsRoom key with
    | false => rfl
    | true => exact count_evict Statistics.expirations (fun _ => rfl) s
  | get key =>
    simp only [Use.request, perform, Store.get]
    cases s.live? key now <;> rfl
  | delete key =>
    simp only [Use.request, perform, Store.delete]
    split <;> rfl
  | clear => rfl

end Store

namespace Usage

/-- What a deed does to a store by itself. -/
def follow (b : Usage V) : Deed V → Usage V
  | .use x => b.step ⟨0, x.request⟩
  | .passage d => { b with now := b.now + d }
  | .turn | .shutdown | .shutdownAndWait => b

/-- What one deed after the other does to a store by itself. -/
def followAll (b : Usage V) (deeds : List (Deed V)) : Usage V := deeds.foldl follow b

/-- A store that is used without a sweep counts no entry as expired. -/
theorem expirations_followAll (b : Usage V) (deeds : List (Deed V)) :
    (b.followAll deeds).store.statistics.expirations = b.store.statistics.expirations := by
  refine deeds.foldlRecOn (motive := fun b' =>
    b'.store.statistics.expirations = b.store.statistics.expirations) follow rfl fun b' h d _ => ?_
  cases d with
  | use x => exact (b'.store.expirations_perform _ x).trans h
  | passage _ | turn | shutdown | shutdownAndWait => exact h

/-- The cache is asked to stop and handles no tick, and its store is this one. -/
structure Mirrors (b : Usage V) (u : Upkeep V) : Prop where
  now : u.now = b.now
  store : u.cache.store = b.store
  stopRequested : u.cache.stopRequested = true
  handling : u.handling = false

namespace Mirrors

variable {b : Usage V} {u : Upkeep V}

/-- One deed leaves the cache in step with its store. -/
theorem act (h : b.Mirrors u) (d : Deed V) : (b.follow d).Mirrors (u.act d) := by
  have hstop := Upkeep.stopRequested_act h.stopRequested d
  cases d with
  | use x =>
    refine ⟨h.now, ?_, hstop, h.handling⟩
    rw [Upkeep.act, Expiring.serve_eq, h.now, h.store]
    rfl
  | passage d => exact ⟨congrArg (· + d) h.now, h.store, hstop, h.handling⟩
  | turn =>
    have htick := Expiring.not_handlesTick_of_stopRequested h.stopRequested u.now
    have hgoOn : u.act .turn = u.put (u.cache.sweep u.now) := Upkeep.goOn_eq h.handling htick
    rw [hgoOn] at hstop ⊢
    exact ⟨h.now, (u.cache.store_sweep_of_not_handlesTick u.now htick).trans h.store, hstop,
      h.handling⟩
  | shutdown | shutdownAndWait =>
    have hsame : u.cache.shutdown = (u.cache, []) := if_pos h.stopRequested
    refine ⟨h.now, ?_, hstop, h.handling⟩
    simp only [Upkeep.act, Upkeep.put, Upkeep.detach, hsame]
    exact h.store

/-- Any number of deeds does. -/
theorem run (h : b.Mirrors u) (deeds : List (Deed V)) :
    (b.followAll deeds).Mirrors (u.run deeds) := by
  induction deeds generalizing b u with
  | nil => exact h
  | cons d deeds ih => exact ih (h.act d)

end Mirrors

end Usage

namespace Upkeep

/-- The store of a cache, by itself. -/
def bare (u : Upkeep V) : Usage V := { now := u.now, store := u.cache.store }

/-- In the deeds that follow the sweep removes nothing from `u`, and every use comes to what it does
with the store by itself. -/
structure Undisturbed (u : Upkeep V) (deeds : List (Deed V)) : Prop where
  handling : (u.run deeds).handling = false
  turn : (u.run deeds).goOn.cache.store = (u.run deeds).cache.store
  expirations : (u.run deeds).cache.store.statistics.expirations =
    u.cache.store.statistics.expirations
  now : (u.run deeds).now = (u.bare.followAll deeds).now
  store : (u.run deeds).cache.store = (u.bare.followAll deeds).store
  /-- What a use answers, leaves and reports. -/
  serve : ∀ x : Use V, (u.run deeds).cache.serve (u.run deeds).now x =
    (u.run deeds).cache.outcome x
      ((u.bare.followAll deeds).store.perform (u.bare.followAll deeds).now x.request)
  size : (u.run deeds).cache.store.size = (u.bare.followAll deeds).store.size
  report : (u.run deeds).cache.store.report = (u.bare.followAll deeds).store.report

variable {u : Upkeep V}

/-- A cache that was asked to stop and handles no tick is left alone by its sweep for good. -/
theorem undisturbed (hstop : u.cache.stopRequested = true) (hhandling : u.handling = false)
    (deeds : List (Deed V)) : u.Undisturbed deeds := by
  have hmirrors : (u.bare.followAll deeds).Mirrors (u.run deeds) :=
    Usage.Mirrors.run ⟨rfl, rfl, hstop, hhandling⟩ deeds
  exact
    { handling := hmirrors.handling
      turn := (hmirrors.act .turn).store.trans hmirrors.store.symm
      expirations := by
        rw [hmirrors.store]
        exact u.bare.expirations_followAll deeds
      now := hmirrors.now
      store := hmirrors.store
      serve := fun x => by rw [Expiring.serve_eq, hmirrors.now, hmirrors.store]
      size := by rw [hmirrors.store]
      report := by rw [hmirrors.store] }

/-- What was asked to stop is, and it handles a tick if it did before. -/
theorem act_of_asksToStop {d : Deed V} (hd : d.asksToStop = true) (u : Upkeep V) :
    (u.act d).cache.stopRequested = true ∧ (u.act d).handling = u.handling := by
  have hasked : u.cache.shutdown.1.stopRequested = true := by
    unfold Expiring.shutdown
    split
    · assumption
    · rfl
  cases d with
  | shutdown | shutdownAndWait => exact ⟨hasked, rfl⟩
  | use _ | passage _ | turn => cases hd

/-- However a new cache is used, swept and shut down, with or without waiting for the end, it
reports at most one request to stop and at most one end of its sweeping task. If the task is asked
to stop while it handles no tick then the sweep removes nothing from then on, and the cache does
what its store would do by itself. The task ends with its second turn at the latest, and once it is
waited for it is never seen running again. -/
theorem closes_for_good (config : Config) (start : Nat) (deeds : List (Deed V)) :
    let u := (opened config start : Upkeep V).run deeds
    entries "cache shut down" u.reported ≤ 1 ∧
      entries "cache sweep stopped" u.reported ≤ 1 ∧
      ∀ before call after, deeds = before ++ call :: after → call.asksToStop = true →
        let v := (opened config start : Upkeep V).run before
        (v.handling = false → (v.act call).Undisturbed after) ∧
          (2 ≤ after.countP Deed.isTurn → u.HasEnded) ∧
          (call = .shutdownAndWait → u.cache.isRunning = false) := by
  intro u
  have haccounted : ∀ deeds, ((opened config start : Upkeep V).run deeds).Accounted :=
    (accounted_opened config start).run
  refine ⟨?_, ?_, ?_⟩
  · rw [(haccounted deeds).shutDown]
    exact Bool.toNat_le _
  · rw [(haccounted deeds).stopped]
    exact Sweeper.ended_le _
  · intro before call after hsplit hcall v
    obtain ⟨hstop, hhandling⟩ := act_of_asksToStop hcall v
    have hu : u = (v.act call).run after := by
      show (opened config start : Upkeep V).run deeds = _
      rw [hsplit, run_append]
      rfl
    rw [hu]
    refine ⟨fun hv => undisturbed hstop (hhandling.trans hv) after,
      ((haccounted before).act call).hasEnded_run hstop, ?_⟩
    rintro rfl
    exact isRunning_run rfl after

/-- The task is waited for at the instant of its first tick, at which there is an entry to
remove. -/
theorem closes_for_good_of_due_tick :
    let before : List (Deed Nat) :=
      [.turn, .use (.set "a" 1 (some Time.millisecond)), .passage Time.second]
    let after : List (Deed Nat) :=
      [.turn, .use (.get "a"), .shutdown, .passage Time.second, .turn]
    let v := (opened {} 0 : Upkeep Nat).run before
    let u := (v.act .shutdownAndWait).run after
    v.cache.handlesTick v.now = true ∧ v.cache.store.expiredKeys v.now = ["a"] ∧
      v.handling = false ∧ (v.act .shutdownAndWait).Undisturbed after ∧
      u.cache.store.report = { misses := 1, entries := 1 } ∧
      u.HasEnded ∧ u.cache.isRunning = false := by
  intro before after v u
  have hhandling : v.handling = false := by decide +kernel
  have hu : (opened {} 0 : Upkeep Nat).run (before ++ .shutdownAndWait :: after) = u := by
    rw [run_append]
    rfl
  obtain ⟨-, -, hcloses⟩ :=
    closes_for_good ({} : Config) 0 (before ++ Deed.shutdownAndWait :: after)
  obtain ⟨hundisturbed, hends, hrunning⟩ := hcloses before .shutdownAndWait after rfl rfl
  rw [hu] at hends hrunning
  exact ⟨by decide +kernel, by decide +kernel, hhandling, hundisturbed hhandling,
    by decide +kernel, hends (by decide), hrunning rfl⟩

/-- A tick that was taken before the request to stop is handled after it. -/
example :
    let before : List (Deed Nat) :=
      [.turn, .use (.set "a" 1 (some Time.millisecond)), .passage Time.second, .turn]
    let v := (opened {} 0 : Upkeep Nat).run before
    v.handling = true ∧
      (v.run [.shutdown, .turn]).cache.store.report = { expirations := 1 } := by
  decide +kernel

end Upkeep

end Cache

end Resilience
