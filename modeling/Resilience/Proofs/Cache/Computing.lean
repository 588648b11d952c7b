import Resilience.Activity.Operation
import Resilience.Cache.Compute
import Resilience.Proofs.Activity.Undertaking

/-!
# Computing a missing value is a read and a write

Between the read that misses and the write of what the supplier returns, anything may happen to the
world. Whatever it is, `getOrCompute` is to be told from its supplier by nothing but the read at the
beginning and, if the supplier succeeds, the write at its end
(`Cache.getOrCompute_is_read_and_write`). Up to the supplier's success the one undertaking is the
other from within (`Undertaking.run_within`), and the turn that ends in success writes
(`Undertaking.act_turn_within_of_ok`).
-/

namespace Resilience

variable {σ ε : Type}

/-! ## The supplier from within -/

namespace Cache

variable (key : String) (ttl? : Option Nat) (supplier : Activity σ (Except ε String))

/-- The answer with a value from the supplier. -/
def computed (value : String) : Answer := ⟨value, false⟩

/-- A turn of the supplier, unless it ends in success. -/
theorem getOrCompute_turn {s : σ} {w : World}
    (h : ∀ v, (supplier.turn s w).progress ≠ .finished (.ok v)) :
    ((getOrCompute key ttl? supplier).turn (some s) w).upshot =
      ((supplier.turn s w).progress.map some (Except.map computed), (supplier.turn s w).world) := by
  refine Turn.upshot_inside_map fun r hr => ?_
  cases r with
  | ok v => exact absurd hr (h v)
  | error e => rfl

/-- The turn in which the supplier succeeds. -/
theorem getOrCompute_turn_of_ok {s : σ} {w : World} {v : String}
    (h : (supplier.turn s w).progress = .finished (.ok v)) :
    ((getOrCompute key ttl? supplier).turn (some s) w).upshot =
      (.finished (.ok (computed v)), (supplier.turn s w).world.occur (.use (.set key v ttl?))) := by
  simp only [getOrCompute]
  rw [Turn.inside_of_finished h, ← World.store_eq]
  rfl

end Cache

namespace Undertaking

/-- The computation whose supplier is under way, after a first turn. -/
def within (u : Undertaking σ (Except ε String)) (first : Option σ × World) :
    Undertaking (Option σ) (Except ε Cache.Answer) :=
  ⟨u.world, u.progress.map some (Except.map Cache.computed),
    first :: u.turns.map fun t => (some t.1, t.2)⟩

variable {u : Undertaking σ (Except ε String)} {supplier : Activity σ (Except ε String)}
  (first : Option σ × World) (key : String) (ttl? : Option Nat)

/-- A turn of the supplier is a turn of the computation around it. -/
theorem act_turn_within {s : σ} (h : u.progress.state? = some s) :
    (u.within first).act (Cache.getOrCompute key ttl? supplier) .turn =
      let upshot := ((Cache.getOrCompute key ttl? supplier).turn (some s) u.world).upshot
      ⟨upshot.2, upshot.1,
        (first :: u.turns.map fun t => (some t.1, t.2)) ++ [(some s, u.world)]⟩ := by
  have hstate : (u.within first).progress.state? = some (some s) := by
    rw [within, Progress.state?_map, h, Option.map_some]
  rw [act_turn hstate]
  rfl

/-- As long as the supplier has not succeeded, what happens to the computation is what happens to
the supplier. -/
theorem act_within {x : Happening} (h : ∀ v, (u.act supplier x).progress ≠ .finished (.ok v)) :
    (u.within first).act (Cache.getOrCompute key ttl? supplier) x =
      (u.act supplier x).within first := by
  cases x with
  | nearby _ | elsewhere _ => rfl
  | turn =>
    cases hstate : u.progress.state? with
    | none =>
      have hstate' : (u.within first).progress.state? = none := by
        rw [within, Progress.state?_map, hstate, Option.map_none]
      simp only [act, hstate, hstate']
    | some s =>
      rw [act_turn hstate] at h ⊢
      rw [act_turn_within first key ttl? hstate, Cache.getOrCompute_turn key ttl? supplier h]
      simp only [within, List.map_append, List.map_cons, List.map_nil, List.cons_append]

/-- The turn in which the supplier succeeds is followed by a write. -/
theorem act_turn_within_of_ok {v : String} (hu : u.progress.isFinished = false)
    (h : (u.act supplier .turn).progress = .finished (.ok v)) :
    (u.within first).act (Cache.getOrCompute key ttl? supplier) .turn =
      (u.run supplier [.turn, .nearby (.use (.set key v ttl?))]).within first := by
  obtain ⟨s, hstate⟩ : ∃ s, u.progress.state? = some s := by
    cases hprogress : u.progress with
    | running s | waiting s _ => exact ⟨s, rfl⟩
    | finished _ => simp [hprogress, Progress.isFinished] at hu
  have hend := h
  rw [act_turn hstate] at h
  rw [act_turn_within first key ttl? hstate, Cache.getOrCompute_turn_of_ok key ttl? supplier h]
  show _ = ((u.act supplier .turn).act supplier (.nearby (.use (.set key v ttl?)))).within first
  rw [act_turn hstate] at hend ⊢
  simp only [within, act, World.meet, hend, List.map_append, List.map_cons, List.map_nil,
    List.cons_append]
  rfl

theorem not_ok_of_isFinished_eq_false (h : u.progress.isFinished = false) (v : String) :
    u.progress ≠ .finished (.ok v) := by
  intro hprogress
  simp [hprogress, Progress.isFinished] at h

/-- A supplier that has not succeeded in the end has not succeeded on the way. -/
theorem run_within {hs : List Happening}
    (h : ∀ v, (u.run supplier hs).progress ≠ .finished (.ok v)) :
    (u.within first).run (Cache.getOrCompute key ttl? supplier) hs =
      (u.run supplier hs).within first := by
  induction hs generalizing u with
  | nil => rfl
  | cons x hs ih =>
    have hfirst : ∀ v, (u.act supplier x).progress ≠ .finished (.ok v) := by
      intro v hv
      refine h v ?_
      show ((u.act supplier x).run supplier hs).progress = _
      rw [run_of_finished hv, hv]
    show ((u.within first).act _ x).run _ hs = _
    rw [act_within first key ttl? hfirst]
    exact ih h

/-- After the end of both the world is as others leave it. -/
theorem run_within_of_finished {r : Except ε String} (h : u.progress = .finished r)
    (hs : List Happening) :
    (u.within first).run (Cache.getOrCompute key ttl? supplier) hs =
      (u.run supplier hs).within first := by
  have hwithin : (u.within first).progress = .finished (r.map Cache.computed) := by
    rw [within, h]
    rfl
  rw [run_of_finished hwithin, run_of_finished h]
  rfl

/-- A supplier that has succeeded in the end did so in one of its turns, and this is where the
computation writes. -/
theorem run_within_of_ok {hs : List Happening} {v : String} (hu : u.progress.isFinished = false)
    (h : (u.run supplier hs).progress = .finished (.ok v)) :
    ∃ during rest, hs = during ++ .turn :: rest ∧
      (u.run supplier during).progress.isFinished = false ∧
      (u.run supplier (during ++ [.turn])).progress = .finished (.ok v) ∧
      (u.within first).run (Cache.getOrCompute key ttl? supplier) hs =
        (u.run supplier (during ++ .turn :: .nearby (.use (.set key v ttl?)) :: rest)).within
          first := by
  obtain ⟨during, rest, rfl, hduring, hlast⟩ := exists_last_turn hu h
  refine ⟨during, rest, rfl, hduring, hlast, ?_⟩
  rw [run_append] at hlast ⊢
  rw [run_within first key ttl? (not_ok_of_isFinished_eq_false hduring), run_append]
  generalize u.run supplier during = u' at hduring hlast ⊢
  have hwritten : (u'.run supplier [.turn, .nearby (.use (.set key v ttl?))]).progress =
      .finished (.ok v) := hlast
  show ((u'.within first).act _ .turn).run _ rest = _
  rw [act_turn_within_of_ok first key ttl? hduring hlast,
    run_within_of_finished first key ttl? hwritten]
  rfl

end Undertaking

/-! ## Computing and reading -/

namespace Cache

open Undertaking

variable (key : String) (ttl? : Option Nat) (supplier : Activity σ (Except ε String))

/-- A computation that finds a live value is a read, whatever happens after it. -/
theorem getOrCompute_of_live {w₀ : World} {v : String} (h : w₀.live? key = some v)
    (after : List Happening) :
    through (getOrCompute key ttl? supplier) w₀ (.turn :: after) =
      ⟨w₀.meetAll (.nearby (.use (.get key)) :: after), .finished (.ok ⟨v, true⟩),
        [(none, w₀)]⟩ := by
  obtain ⟨hvalue, hworld⟩ := w₀.read_eq key
  rw [h] at hvalue
  have hfirst :
      (of (getOrCompute key ttl? supplier) w₀).act (getOrCompute key ttl? supplier) .turn =
      ⟨w₀.occur (.use (.get key)), .finished (.ok ⟨v, true⟩), [(none, w₀)]⟩ := by
    rw [act_turn rfl]
    simp only [of, getOrCompute, hvalue, hworld, List.nil_append]
  show ((of _ w₀).act _ .turn).run _ after = _
  rw [hfirst, run_of_finished rfl]
  rfl

/-- A computation that finds no live value goes on with its supplier. -/
theorem getOrCompute_of_missing {w₀ : World} (h : w₀.live? key = none) (after : List Happening) :
    through (getOrCompute key ttl? supplier) w₀ (.turn :: after) =
      ((of supplier (w₀.occur (.use (.get key)))).within (none, w₀)).run
        (getOrCompute key ttl? supplier) after := by
  obtain ⟨hvalue, hworld⟩ := w₀.read_eq key
  rw [h] at hvalue
  have hfirst :
      (of (getOrCompute key ttl? supplier) w₀).act (getOrCompute key ttl? supplier) .turn =
      (of supplier (w₀.occur (.use (.get key)))).within (none, w₀) := by
    rw [act_turn rfl]
    simp only [of, getOrCompute, hvalue, hworld, List.nil_append]
    rfl
  show ((of _ w₀).act _ .turn).run _ after = _
  rw [hfirst]

/-- Without a cache there is nothing to be read or written, as long as the supplier does not set one
up. -/
theorem getOrCompute_of_no_cache {w₀ : World} (hw₀ : w₀.cache? = none)
    (hsupplier : ∀ s w, w.cache? = none → (supplier.turn s w).world.cache? = none)
    (after : List Happening) :
    through (getOrCompute key ttl? supplier) w₀ (.turn :: after) =
      (through supplier w₀ after).within (none, w₀) := by
  have hmissing : w₀.live? key = none := by simp [World.live?, hw₀]
  have hnone : ∀ hs, ((of supplier w₀).run supplier hs).world.cache? = none :=
    run_of_turn (P := fun w => w.cache? = none) hsupplier
      (fun w x hw => World.cache?_meet_of_none hw x) hw₀
  rw [getOrCompute_of_missing key ttl? supplier hmissing, World.occur_use_of_none hw₀]
  by_cases hok : ∃ v, ((of supplier w₀).run supplier after).progress = .finished (.ok v)
  · obtain ⟨v, hv⟩ := hok
    obtain ⟨during, rest, rfl, -, hlast, hrun⟩ := run_within_of_ok (none, w₀) key ttl? rfl hv
    -- The write at the supplier's end finds no cache, and so nothing is left of it.
    have hwrite : ((of supplier w₀).run supplier (during ++ [.turn])).world.meetAll
        (.nearby (.use (.set key v ttl?)) :: rest) = _ :=
      congrArg (·.meetAll rest) (World.occur_use_of_none (hnone _) _)
    rw [through, hrun, run_of_last_turn hlast (_ :: rest), run_of_last_turn hlast rest, hwrite]
  · exact run_within (none, w₀) key ttl? fun v hv => hok ⟨v, hv⟩

/-- However the cache is used and swept meanwhile, however time passes and the rest of the world
changes, a computation that finds a live value is a read and never begins its supplier. One that
finds none is a read and one run of the supplier : it ends when the supplier does, with the
supplier's failure or value, and leaves the world as the two would have left it, but for a write of
the value at the supplier's end if that is a success. If the supplier leaves the cache and the clock
alone, so that only the read and the write are left of the computation, they are as others make
them. Without a cache there is only the supplier. -/
theorem getOrCompute_is_read_and_write (w₀ : World) (after : List Happening) :
    let whole := through (getOrCompute key ttl? supplier) w₀ (.turn :: after)
    let plain (hs : List Happening) := through supplier w₀ (.nearby (.use (.get key)) :: hs)
    (∀ v, w₀.live? key = some v →
      whole.progress = .finished (.ok ⟨v, true⟩) ∧ whole.turns = [(none, w₀)] ∧
        whole.world = w₀.meetAll (.nearby (.use (.get key)) :: after)) ∧
    (w₀.live? key = none →
      whole.progress = (plain after).progress.map some (Except.map computed) ∧
        whole.turns = (none, w₀) :: (plain after).turns.map (fun t => (some t.1, t.2)) ∧
        ((∀ v, (plain after).progress ≠ .finished (.ok v)) → whole.world = (plain after).world) ∧
        ∀ v, (plain after).progress = .finished (.ok v) →
          ∃ during rest, after = during ++ .turn :: rest ∧
            (plain during).progress.isFinished = false ∧
            (plain (during ++ [.turn])).progress = .finished (.ok v) ∧
            whole.world =
              (plain (during ++ .turn :: .nearby (.use (.set key v ttl?)) :: rest)).world) ∧
    ((∀ s w, (supplier.turn s w).world.cache? = w.cache? ∧
        (supplier.turn s w).world.now = w.now) →
      ∀ hs, (plain hs).world.cache? = (w₀.meetAll (.nearby (.use (.get key)) :: hs)).cache? ∧
        (plain hs).world.now = (w₀.meetAll (.nearby (.use (.get key)) :: hs)).now) ∧
    (w₀.cache? = none →
      (∀ s w, w.cache? = none → (supplier.turn s w).world.cache? = none) →
      let alone := through supplier w₀ after
      whole.progress = alone.progress.map some (Except.map computed) ∧ whole.world = alone.world ∧
        whole.turns = (none, w₀) :: alone.turns.map (fun t => (some t.1, t.2))) := by
  intro whole plain
  refine ⟨fun v hv => ?_, fun hmissing => ?_, fun haloof hs => ?_, fun hw₀ hsupplier => ?_⟩
  · have hwhole : whole = _ := getOrCompute_of_live key ttl? supplier hv after
    rw [hwhole]
    exact ⟨rfl, rfl, rfl⟩
  · have hwhole : whole = _ := getOrCompute_of_missing key ttl? supplier hmissing after
    by_cases hok : ∃ v, (plain after).progress = .finished (.ok v)
    · obtain ⟨v, hv⟩ := hok
      obtain ⟨during, rest, rfl, hduring, hlast, hrun⟩ :=
        run_within_of_ok (u := of supplier (w₀.occur (.use (.get key)))) (none, w₀) key ttl? rfl hv
      have hplain : plain (during ++ .turn :: rest) =
          { plain (during ++ [.turn]) with
            world := (plain (during ++ [.turn])).world.meetAll rest } :=
        run_of_last_turn hlast rest
      have hwritten := run_of_last_turn hlast (.nearby (.use (.set key v ttl?)) :: rest)
      rw [hwhole, hrun]
      refine ⟨?_, ?_, fun hfailed => absurd hv (hfailed v), fun v' hv' => ?_⟩
      · rw [hplain, hwritten]
        rfl
      · rw [hplain, hwritten]
        rfl
      · obtain rfl : v' = v := by
          rw [hv] at hv'
          cases hv'
          rfl
        exact ⟨during, rest, rfl, hduring, hlast, rfl⟩
    · have hfailed : ∀ v, (plain after).progress ≠ .finished (.ok v) := fun v hv => hok ⟨v, hv⟩
      have hrun : whole = (plain after).within (none, w₀) :=
        hwhole.trans (run_within (none, w₀) key ttl? hfailed)
      rw [hrun]
      exact ⟨rfl, rfl, fun _ => rfl, fun v hv => absurd hv (hfailed v)⟩
  · exact cache?_run haloof rfl rfl (.nearby (.use (.get key)) :: hs)
  · have hwhole : whole = (through supplier w₀ after).within (none, w₀) :=
      getOrCompute_of_no_cache key ttl? supplier hw₀ hsupplier after
    rw [hwhole]
    exact ⟨rfl, rfl, rfl⟩

/-- While the supplier is under way another writes the key, deletes it again and the cache is
swept. -/
theorem getOrCompute_among_others :
    let supplier : Activity _ (Except Unit String) :=
      .call fun _ => ⟨some Time.millisecond, .ok "computed"⟩
    let w₀ := (({} : World).withCache {}).1
    let after : List Happening := [.turn, .nearby (.use (.set "key" "other" none)), .turn,
      .nearby (.use (.delete "key")), .nearby (.passage Time.millisecond), .nearby .turn,
      .elsewhere World.called, .turn, .nearby (.passage Time.millisecond)]
    let whole := through (getOrCompute "key" none supplier) w₀ (.turn :: after)
    let plain (hs : List Happening) := through supplier w₀ (.nearby (.use (.get "key")) :: hs)
    w₀.live? "key" = none ∧ (plain after).progress = .finished (.ok "computed") ∧
      whole.progress = .finished (.ok ⟨"computed", false⟩) ∧
      whole.turns.length = 4 ∧ whole.world.live? "key" = some "computed" ∧
      ∃ during rest, after = during ++ .turn :: rest ∧
        whole.world = (plain
          (during ++ .turn :: .nearby (.use (.set "key" "computed" none)) :: rest)).world := by
  intro supplier w₀ after whole plain
  have hmissing : w₀.live? "key" = none := by decide +kernel
  have hplain : (plain after).progress = .finished (.ok "computed") :=
    Progress.eq_of_success (by decide +kernel)
  obtain ⟨-, hmiss, -, -⟩ := getOrCompute_is_read_and_write "key" none supplier w₀ after
  obtain ⟨hprogress, hturns, -, hok⟩ := hmiss hmissing
  obtain ⟨during, rest, hafter, -, -, hworld⟩ := hok "computed" hplain
  exact ⟨hmissing, hplain, hprogress.trans (congrArg _ hplain), by decide +kernel,
    by decide +kernel, during, rest, hafter, hworld⟩

end Cache

end Resilience
