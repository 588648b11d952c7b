import Resilience.Proofs.Cache.Contents
import Resilience.Proofs.Retry.Schedule
import Resilience.Service.Lookup

/-!
# The turns of a look-up

What one turn of a look-up does to the world and where it leads (`Service.LookTurn`). There are four
kinds of turn : one that concerns neither the cache's contents nor the resolver, a hit, a call of
the resolver that fails, and one that is answered, whose answer is stored at once. A look-up reads
the cache before it calls the resolver, and waits only after that.
-/

namespace Resilience

open Retry (Stage)

/-- All that the cache holds, but for its counters. -/
def World.contents (w : World) : Option (Cache.Store String) :=
  w.cache?.map fun c => { c.store with statistics := {} }

theorem World.calls_store (w : World) (key value : String) (ttl? : Option Nat) :
    (w.store key value ttl?).1.calls = w.calls := by
  rw [store_fst]

theorem World.contents_store (w : World) (key value : String) :
    (w.store key value none).1.contents =
      w.cache?.map fun c => { (c.store.set key value w.now).2 with statistics := {} } := by
  rw [contents, store_fst, Option.map_map]
  rfl

namespace Service

/-- States of a look-up. -/
abbrev LookState := Option (Cancellation × Looking)

namespace LookState

/-- Whether the cache has been read, and did not have the key. -/
def asked : LookState → Bool
  | some (_, some (some _)) => true
  | _ => false

/-- Whether the look-up is not within a call of the resolver, which answers at once. -/
def outside : LookState → Bool
  | some (_, some (some (.calling _ (some _)))) => false
  | _ => true

end LookState

/-- How a look-up can go on from a state in which the cache has been `asked` or not, other than to a
value. -/
inductive GoesOn (asked : Bool) : Progress LookState (Except Error Found) → Prop
  | running {state : LookState} (houtside : state.outside = true)
      (hasked : asked = true → state.asked = true) : GoesOn asked (.running state)
  | waiting {state : LookState} {wait : Wait} (houtside : state.outside = true)
      (hasked : state.asked = true) : GoesOn asked (.waiting state wait)
  | failed {e : Error} : GoesOn asked (.finished (.error e))

/-- What a turn of a look-up of `key` can be, from `state` in the world `w`. -/
inductive LookTurn (s : Service) (key : String) (state : LookState) (w : World) :
    Progress LookState (Except Error Found) × World → Prop
  | plain {progress w'} (hgoes : GoesOn state.asked progress) (hnow : w'.now = w.now)
      (hcalls : w'.calls = w.calls) (hcontents : w'.contents = w.contents) :
      LookTurn s key state w (progress, w')
  | hit {c value} (hasked : state.asked = false) (hcache : w.cache? = some c)
      (hlive : c.store.live? key w.now = some value) :
      LookTurn s key state w
        (.finished (.ok ⟨key, value, true⟩), { w with cache? := some (c.get key w.now).2.1 })
  | refused {progress e} (hasked : state.asked = true) (hgoes : GoesOn true progress)
      (hresolver : s.resolver w.calls.length key = .error e) :
      LookTurn s key state w (progress, w.called)
  | answered {value} (hasked : state.asked = true)
      (hresolver : s.resolver w.calls.length key = .ok value) :
      LookTurn s key state w
        (.finished (.ok ⟨key, value, false⟩), (w.called.store key value none).1)

/-! ## The turns of the retry -/

variable {s : Service} {key : String} {handle : Cancellation} {w : World}

/-- The retry within a look-up. -/
abbrev retrying (s : Service) (key : String) (handle : Cancellation) :
    Activity (Stage Resolving) (Except (Retry.Error IoError) String) :=
  Retry.runClassified s.retry handle s.samples fun _ => s.resolve key

/-- The state of a look-up that stands in its retry. -/
abbrev inRetry (handle : Cancellation) (stage : Stage Resolving) : LookState :=
  some (handle, some (some stage))

/-- How a retry can go on, if not to a value. -/
inductive RetryGoesOn (handle : Cancellation) :
    Progress (Stage Resolving) (Except (Retry.Error IoError) String) → Prop
  | running {stage} (houtside : (inRetry handle stage).outside = true) :
      RetryGoesOn handle (.running stage)
  | waiting {stage wait} (houtside : (inRetry handle stage).outside = true) :
      RetryGoesOn handle (.waiting stage wait)
  | failed {e} : RetryGoesOn handle (.finished (.error e))

/-- What a turn of the retry can be. -/
inductive RetryTurn (s : Service) (key : String) (handle : Cancellation) (w : World) :
    Progress (Stage Resolving) (Except (Retry.Error IoError) String) × World → Prop
  | plain {progress} (hgoes : RetryGoesOn handle progress) :
      RetryTurn s key handle w (progress, w)
  | refused {progress e} (hgoes : RetryGoesOn handle progress)
      (hresolver : s.resolver w.calls.length key = .error e) :
      RetryTurn s key handle w (progress, w.called)
  | answered {value} (hresolver : s.resolver w.calls.length key = .ok value) :
      RetryTurn s key handle w (.finished (.ok value), w.called)

theorem retryGoesOn_afterFailure (c : Retry.Config) (handle handle' : Cancellation)
    (worth : IoError → Bool) (samples : Nat → Float) (f : Retry.Frame) (e : IoError) (w : World) :
    RetryGoesOn handle' (Retry.afterFailure c handle worth samples f e w :
      Turn (Stage Resolving) (Except (Retry.Error IoError) String)).progress := by
  rw [Retry.afterFailure_progress]
  split
  · exact .failed
  · split
    · exact .failed
    · split
      · exact .running rfl
      · exact .failed

/-- The resolver answers in the turn in which it is called. -/
theorem upshot_calling (s : Service) (key : String) (handle : Cancellation) (f : Retry.Frame)
    (w : World) : ((s.retrying key handle).turn (.calling f none) w).upshot =
      (Retry.afterAttempt s.retry.coerced handle isRetryable s.samples f
        (s.resolver w.calls.length key) w.called).upshot := by
  simp only [retrying, Retry.runClassified, Retry.execute, resolve, Activity.call]
  rfl

theorem retryTurn (s : Service) (key : String) (w : World) (stage : Stage Resolving)
    (houtside : (inRetry handle stage).outside = true) :
    RetryTurn s key handle w ((s.retrying key handle).turn stage w).upshot := by
  cases stage with
  | opening => exact .plain (.running rfl)
  | checking f =>
    simp only [retrying, Retry.runClassified, Retry.execute]
    cases handle.check w.tokens w.now with
    | none => exact .plain (.running rfl)
    | some reason => exact .plain .failed
  | calling f state =>
    cases state with
    | some state => cases houtside
    | none =>
      rw [upshot_calling]
      unfold Turn.upshot
      rw [Retry.afterAttempt_world]
      cases hresolver : s.resolver w.calls.length key with
      | ok value => exact .answered hresolver
      | error e => exact .refused (retryGoesOn_afterFailure ..) hresolver
  | pausing f wait =>
    simp only [retrying, Retry.runClassified, Retry.execute]
    cases wait.poll w.tokens w.now with
    | pending => exact .plain (.waiting rfl)
    | «over» => exact .plain (.running rfl)
    | interrupted reason => exact .plain .failed

/-! ## The turns of the look-up -/

/-- The look-up behind the limiter. -/
abbrev computing (s : Service) (key : String) (handle : Cancellation) :
    Activity (Option (Stage Resolving)) (Except (Retry.Error IoError) Cache.Answer) :=
  Cache.getOrCompute key none (s.retrying key handle)

theorem upshot_admitted (x : Option (Stage Resolving)) :
    ((s.lookup key).turn (some (handle, some x)) w).upshot =
      match ((s.computing key handle).turn x w).upshot with
      | (.running x, w) => (.running (some (handle, some x)), w)
      | (.waiting x wait, w) => (.waiting (some (handle, some x)) wait, w)
      | (.finished r, w) => (.finished (answer key (r.mapError .operation)), w) := by
  simp only [lookup, Activity.prepare, guarded, Activity.map, Rate.execute, Rate.operationTurn,
    Turn.upshot_inside]
  generalize ((s.computing key handle).turn x w).upshot = u
  obtain ⟨_ | _ | r, w⟩ := u <;> rfl

theorem contents_allow (w : World) : w.allow.2.contents = w.contents := by
  unfold World.allow
  split <;> rfl

/-- The first turn of a look-up, in which its key is looked at. -/
theorem lookTurn_opening : LookTurn s key none w ((s.lookup key).turn none w).upshot := by
  simp only [lookup, Activity.prepare, checkKey]
  split <;> rename_i h
  · split at h <;> cases h
    exact .plain .failed rfl rfl rfl
  · split at h <;> cases h
    exact .plain (.running rfl nofun) rfl rfl rfl

theorem lookTurn_admission :
    LookTurn s key (some (handle, none)) w
      ((s.lookup key).turn (some (handle, none)) w).upshot := by
  simp only [lookup, Activity.prepare, guarded, Activity.map, Rate.execute, Turn.upshot_inside]
  cases w.limiter? with
  | none => exact .plain (.running rfl nofun) rfl rfl rfl
  | some l =>
    have hnow := w.allow_now
    have hcalls := w.calls_allow
    have hcontents := contents_allow w
    generalize w.allow = admission at hnow hcalls hcontents
    obtain ⟨allowed, w'⟩ := admission
    cases allowed with
    | false => exact .plain .failed hnow hcalls hcontents
    | true => exact .plain (.running rfl nofun) hnow hcalls hcontents

theorem lookTurn_reading :
    LookTurn s key (some (handle, some none)) w
      ((s.lookup key).turn (some (handle, some none)) w).upshot := by
  rw [upshot_admitted]
  simp only [computing, Cache.getOrCompute, World.read]
  cases hcache : w.cache? with
  | none => exact .plain (.running rfl nofun) rfl rfl rfl
  | some c =>
    have hget := c.store.fst_get key w.now
    simp only [Cache.Expiring.get, hget]
    cases hlive : c.store.live? key w.now with
    | some value => exact .hit rfl hcache hlive
    | none =>
      refine .plain (.running rfl nofun) rfl rfl ?_
      simp [World.contents, hcache, Cache.Store.get, hlive]

/-- Every turn of a look-up is of one of the kinds above. -/
theorem lookTurn (state : LookState) (houtside : state.outside = true) :
    LookTurn s key state w ((s.lookup key).turn state w).upshot := by
  obtain _ | ⟨handle, _ | _ | stage⟩ := state
  · exact lookTurn_opening
  · exact lookTurn_admission
  · exact lookTurn_reading
  · have hretry := retryTurn s key w stage houtside
    rw [upshot_admitted]
    simp only [computing, Cache.getOrCompute, Turn.upshot_inside]
    generalize ((s.retrying key handle).turn stage w).upshot = u at hretry
    cases hretry with
    | plain hgoes =>
      cases hgoes with
      | running houtside => exact .plain (.running houtside fun _ => rfl) rfl rfl rfl
      | waiting houtside => exact .plain (.waiting houtside rfl) rfl rfl rfl
      | failed => exact .plain .failed rfl rfl rfl
    | refused hgoes hresolver =>
      cases hgoes with
      | running houtside => exact .refused rfl (.running houtside fun _ => rfl) hresolver
      | waiting houtside => exact .refused rfl (.waiting houtside rfl) hresolver
      | failed => exact .refused rfl .failed hresolver
    | answered hresolver => exact .answered rfl hresolver

end Service

end Resilience
