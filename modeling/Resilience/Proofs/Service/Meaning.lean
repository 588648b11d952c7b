import Resilience.Proofs.Cancellation.Orderly
import Resilience.Proofs.Service.Stages
import Resilience.Service.Respond

/-!
# What a look-up comes to

The whole account of a look-up that is alone (`Service.lookup_meaning`). It comes to an end, and the
answer, the tokens taken, the calls of the resolver and the cache afterwards are determined by the
limiter and the cache as it found them and by what the resolver answers. It takes one token, or none
where there is no limiter. Without a token it changes nothing else. If the cache has the key then
nothing is called. Otherwise the retry meets its deadline : its value is stored, and a failure
leaves the cache as it was, but for the miss that is counted and for what the sweep takes out
meanwhile.

The world has to be orderly, so that nobody calls the look-up's own token off. Look-ups leave
orderly worlds, so that a service only ever comes to such (`Service.orderly_run`).
-/

namespace Resilience

open Retry (Stage)

theorem Time.lt_after {d : Nat} (hd : 0 < d) (t : Nat) : t < after t d := by
  unfold after after?
  split
  · exact Nat.lt_add_of_pos_right hd
  · exact Nat.lt_add_of_pos_right (by decide)

/-- What is stored lives for the default lifetime. -/
theorem Cache.Expiring.getElem?_set {V : Type} (c : Expiring V) (key : String) (value : V)
    (now : Nat) : (c.set key value none now).1.store.entries[key]? =
      some (.storedAt value (max (c.set key value none now).1.store.defaultTtl Time.shortest)
        now) := by
  have hstore : (c.set key value none now).1.store =
      (c.store.setFor key value c.store.defaultTtl now).2 := rfl
  have httl : (c.store.setFor key value c.store.defaultTtl now).2.defaultTtl = c.store.defaultTtl :=
    congrArg (·.2.1) (c.store.settings_setFor key value c.store.defaultTtl now)
  rw [hstore, Store.getElem?_setFor, if_pos rfl, httl]

namespace World.Orderly

variable {w : World}

/-- A handle that is made for a look-up leaves the world orderly. -/
theorem begun (h : w.Orderly) : w.begun.Orderly where
  steady := h.steady
  cancelled number hnumber := Nat.lt_succ_of_lt (h.cancelled number hnumber)
  cancels c hc own hown := Nat.lt_succ_of_lt (h.cancels c hc own hown)

theorem read (h : w.Orderly) {f : Cache.Expiring String → Cache.Expiring String}
    (hf : ∀ c, (f c).config = c.config) : Orderly { w with cache? := w.cache?.map f } :=
  h.of_eq rfl rfl (h.steady.of_map rfl hf)

end World.Orderly

namespace Service

variable {s : Service} {key : String} {w₀ w : World} {n : Nat}
  {progress : Progress LookState (Except Error Found)} {r : Except Error Found}

/-! ## What every look-up keeps -/

/-- A turn of the retry leaves the world as it is, but for the record of a call. -/
theorem retrying_world (s : Service) (key : String) (handle : Cancellation)
    (stage : Stage Resolving) (w : World) :
    ((s.retrying key handle).turn stage w).world = w ∨
      ((s.retrying key handle).turn stage w).world = w.called := by
  let p : Retry.Plan IoError String :=
    { s.plan key 0 with outcomes := fun _ => { result := s.resolver w.calls.length key } }
  have hturn : (s.retrying key handle).turn stage w = (p.under handle).turn stage w := by
    cases stage with
    | opening | checking | pausing => rfl
    | calling f state => cases state <;> rfl
  rw [hturn]
  exact p.turn_world handle stage w

theorem orderly_opening (hw : w.Orderly) : ((s.lookup key).turn none w).upshot.2.Orderly := by
  by_cases hkey : key.utf8ByteSize ≤ keyLimit
  · rw [turn_opening s key hkey]
    exact hw.begun
  · rw [turn_of_long s key (Nat.not_le.1 hkey)]
    exact hw

theorem orderly_retry (hw : w.Orderly) (handle : Cancellation) (stage : Stage Resolving) :
    ((s.lookup key).turn (inRetry handle stage) w).upshot.2.Orderly := by
  have hretry : ((s.retrying key handle).turn stage w).upshot.2.Orderly := by
    rcases s.retrying_world key handle stage w with h | h <;> rw [Turn.upshot, h]
    · exact hw
    · exact hw.called
  rw [upshot_inRetry]
  generalize ((s.retrying key handle).turn stage w).upshot = u at hretry
  obtain ⟨_ | _ | _ | value, w'⟩ := u
  · exact hretry
  · exact hretry
  · exact hretry
  · exact hretry.store key value none

/-- Whatever state a look-up is in, its turns leave an orderly world. -/
theorem kept_orderly (s : Service) (key : String) : World.Kept (s.lookup key) World.Orderly where
  turn state w hw := by
    show ((s.lookup key).turn state w).upshot.2.Orderly
    obtain _ | ⟨handle, _ | _ | stage⟩ := state
    · exact orderly_opening hw
    · by_cases hgrants : w.Grants
      · rw [turn_admission_of_grants s key handle hgrants]
        exact hw.of_eq rfl rfl hw.steady
      · rw [turn_admission_of_not_grants s key handle hgrants]
        exact hw.of_eq rfl rfl hw.steady
    · cases hlive : w.live? key with
      | some value =>
        rw [turn_reading_of_live s key handle hlive]
        exact hw.read fun _ => rfl
      | none =>
        rw [turn_reading_of_not_live s key handle hlive]
        exact hw.read fun _ => rfl
    · exact orderly_retry hw handle stage
  background h := h.background
  advance t h := h.advance t

/-- A service whose world was made from settings stays in orderly worlds, however many look-ups are
under way. -/
theorem orderly_run (s : Service) (settings : Settings) (keys : List String) (fuel : Nat) :
    (Session.run fuel ⟨(World.ofSettings settings).1,
      keys.map fun key => .ofActivity (s.lookup key), []⟩).world.Orderly := by
  have hkeeps : Session.Keeps World.Orderly
      ⟨(World.ofSettings settings).1, keys.map fun key => .ofActivity (s.lookup key), []⟩ := by
    refine ⟨World.orderly_ofSettings settings, fun p hp => ?_⟩
    rw [List.map_map] at hp
    obtain ⟨key, -, rfl⟩ := List.mem_map.1 hp
    exact s.kept_orderly key
  exact (hkeeps.run fuel).world

/-- The retry within a look-up meets the deadline of the look-up. -/
theorem meets_of_solo (hretry : s.retry.maxRetries.toNat + 1 < UInt32.size) (hw₀ : w₀.Orderly)
    {turns : List (Stage Resolving × World)} {result : Except (Retry.Error IoError) String}
    (h : (s.planned key w₀).Solo w₀.missed turns (.finished result) w) :
    (s.plan key w₀.calls.length).Meets w₀.now (Time.after w₀.now lookupTimeout)
      ((s.planned key w₀).callTimes turns) result := by
  have hfree : Cancellation.NeverEnds { token := w₀.tokens.fresh.1 } w₀.missed :=
    ⟨rfl, hw₀.neverEnds.live, hw₀.neverEnds.kept⟩
  have hsteady : w₀.missed.Steady := (hw₀.read (f := (·.afterMiss)) fun _ => rfl).steady
  have hend := h.kept ((s.plan key w₀.calls.length).kept_alone (handleIn w₀)) ⟨hsteady, hfree⟩
  have hdeadline : (handleIn w₀).deadline? = some (Time.after w₀.now lookupTimeout) := rfl
  have hstart : w₀.missed.now < Time.after w₀.now lookupTimeout :=
    Time.lt_after (by decide) w₀.now
  have hmeets := Retry.Plan.meets_of_course (p := s.plan key w₀.calls.length) hretry hdeadline
    h.course hstart hend.2.live
  exact hmeets

namespace Stands

/-- A look-up that is not let through. -/
theorem of_not_grants (h : Stands s key w₀ n (.finished r) w) (hgrants : ¬w₀.Grants) :
    r = .error .rateLimited ∧ w = { w₀.begun with limiter? := w₀.drawn? 0 } := by
  cases h with
  | refused => exact ⟨rfl, rfl⟩
  | hit hyes | answered hyes | failed hyes => exact absurd hyes hgrants

/-- A look-up that is let through takes a token, and no other. -/
theorem limiter_of_grants (h : Stands s key w₀ n (.finished r) w) (hgrants : w₀.Grants) :
    w.limiter? = w₀.drawn? 1 := by
  have hplan := (s.plan key w₀.calls.length).kept_swept (handleIn w₀) w₀.missed
  cases h with
  | refused hno => exact absurd hgrants hno
  | hit => rfl
  | answered _ _ hsolo =>
    rw [World.store_fst]
    exact (hsolo.kept hplan (.refl _)).limiter
  | failed _ _ hsolo => exact (hsolo.kept hplan (.refl _)).limiter

/-- A look-up whose key the cache has. -/
theorem of_live (h : Stands s key w₀ n (.finished r) w) (hgrants : w₀.Grants) {value : String}
    (hlive : w₀.live? key = some value) : r = .ok ⟨key, value, true⟩ ∧ w = w₀.hit key := by
  cases h with
  | refused hno => exact absurd hgrants hno
  | hit _ hlive' =>
    rw [hlive] at hlive'
    cases hlive'
    exact ⟨rfl, rfl⟩
  | answered _ hlive' | failed _ hlive' =>
    rw [hlive] at hlive'
    cases hlive'

/-- A look-up whose key the cache does not have ends as its retry does. -/
theorem of_not_live (h : Stands s key w₀ n (.finished r) w) (hgrants : w₀.Grants)
    (hlive : w₀.live? key = none) : ∃ turns result w',
      (s.planned key w₀).Solo w₀.missed turns (.finished result) w' ∧
      match result with
      | .ok value => r = .ok ⟨key, value, false⟩ ∧ w = (w'.store key value none).1
      | .error e => r = .error (.ofRetry e) ∧ w = w' := by
  cases h with
  | refused hno => exact absurd hgrants hno
  | hit _ hlive' =>
    rw [hlive] at hlive'
    cases hlive'
  | answered _ _ hsolo => exact ⟨_, _, _, hsolo, rfl, rfl⟩
  | failed _ _ hsolo => exact ⟨_, _, _, hsolo, rfl, rfl⟩

end Stands

/-! ## The account -/

/-- The status that tells of a retry which failed under a deadline. -/
def failureStatus : Retry.Error IoError → Nat
  | .exhausted .. => 503
  | .aborted _ => 500
  | .interrupted _ => 504

/-- The status of a look-up whose retry failed is that of the failure. -/
theorem status_of_meets {p : Retry.Plan IoError String} {t₀ deadline : Nat} {times : List Nat}
    {e : Retry.Error IoError} (h : p.Meets t₀ deadline times (.error e)) :
    (found (.error (.ofRetry e))).status = failureStatus e := by
  cases e with
  | exhausted | aborted => rfl
  | interrupted reason =>
    rw [h.eq_deadlineExceeded]
    rfl

/-- A look-up of a key of the size allowed, alone in an orderly world, comes to an end and leaves an
orderly world. If there is no token it is refused, and nothing was called nor the cache touched.
Otherwise it takes a token, if there is a limiter. If the cache has a live value then this is the
answer, a hit is counted and nothing was called. If it has none then a miss is counted and the
resolver is called as often, and at such instants, as a retry of transient failures calls it by a
deadline five seconds after the look-up began, and what the retry comes to decides the answer. A
value is stored, for the default lifetime. A failure leaves what is in the cache in its place, but
for what the sweep has taken out. -/
theorem lookup_meaning (s : Service) (hretry : s.retry.maxRetries.toNat + 1 < UInt32.size)
    (key : String) (hkey : key.utf8ByteSize ≤ keyLimit) (w₀ : World) (hw₀ : w₀.Orderly) :
    ∃ fuel₀ r w events,
      (∀ fuel ≥ fuel₀, Session.run fuel (.alone (s.lookup key) w₀) =
        ⟨w, [⟨s.lookup key, .finished r⟩], events⟩) ∧
      w.Orderly ∧
      (¬w₀.Grants → r = .error .rateLimited ∧ (found r).status = 429 ∧
        w.limiter? = w₀.drawn? 0 ∧ w.calls = w₀.calls ∧ w.cache? = w₀.cache?) ∧
      (w₀.Grants → w.limiter? = w₀.drawn? 1) ∧
      (∀ value, w₀.Grants → w₀.live? key = some value →
        r = .ok ⟨key, value, true⟩ ∧ (found r).status = 200 ∧ w.calls = w₀.calls ∧
          w.cache? = w₀.cache?.map (·.afterHit key)) ∧
      (w₀.Grants → w₀.live? key = none →
        ∃ (times instants : List Nat) (result : Except (Retry.Error IoError) String),
        (s.plan key w₀.calls.length).Meets w₀.now (Time.after w₀.now lookupTimeout) times result ∧
        w.calls = times.reverse ++ w₀.calls ∧
        instants.Pairwise (· ≤ ·) ∧ (∀ t ∈ instants, w₀.now ≤ t ∧ t ≤ w.now) ∧
        match result with
        | .ok value =>
          r = .ok ⟨key, value, false⟩ ∧ (found r).status = 200 ∧
          w.cache? = w₀.cache?.map
            (fun c => ((c.afterMiss.sweptAt instants).set key value none w.now).1) ∧
          ∀ c ∈ w.cache?, c.store.entries[key]? =
            some (.storedAt value (max c.store.defaultTtl Time.shortest) w.now)
        | .error e =>
          r = .error (.ofRetry e) ∧
          (found r).status = failureStatus e ∧
          w.cache? = w₀.cache?.map (·.afterMiss.sweptAt instants) ∧
          ∀ c ∈ w₀.cache?, ∀ c' ∈ w.cache?, c.afterMiss.store.PurgedTo w.now c'.store) := by
  have hstands {turns progress w} (h : (s.lookup key).Solo w₀ turns progress w) :=
    Stands.of_solo hkey h
  obtain ⟨fuel₀, turns, r, w, events, hsolo, hrun⟩ := Activity.ends_solo
    (fun h => (h.kept (s.kept_orderly key) hw₀).steady) (fun h => (hstands h).turns_le)
  have hend := hstands hsolo
  have horderly := hsolo.kept (s.kept_orderly key) hw₀
  refine ⟨fuel₀, r, w, events, hrun, horderly, ?_, hend.limiter_of_grants, ?_, ?_⟩
  · intro hgrants
    obtain ⟨rfl, rfl⟩ := hend.of_not_grants hgrants
    exact ⟨rfl, rfl, rfl, rfl, rfl⟩
  · intro value hgrants hlive
    obtain ⟨rfl, rfl⟩ := hend.of_live hgrants hlive
    exact ⟨rfl, rfl, rfl, rfl⟩
  · intro hgrants hlive
    obtain ⟨turns', result, w', hretried, hresult⟩ := hend.of_not_live hgrants hlive
    have hmeets := meets_of_solo hretry hw₀ hretried
    have hcalls := Retry.Plan.calls_of_solo hretried
    have hswept := hretried.kept ((s.plan key w₀.calls.length).kept_swept (handleIn w₀) w₀.missed)
      (.refl w₀.missed)
    obtain ⟨instants, hsorted, hwithin, hcache⟩ := hswept.cache
    have hcache' : w'.cache? = w₀.cache?.map (·.afterMiss.sweptAt instants) := by
      rw [hcache, World.missed, Option.map_map]
      rfl
    cases result with
    | ok value =>
      obtain ⟨rfl, rfl⟩ := hresult
      refine ⟨_, instants, _, hmeets, ?_, hsorted, ?_, rfl, rfl, ?_, ?_⟩
      · rw [World.store_fst]
        exact hcalls
      · rw [World.store_fst]
        exact hwithin
      · rw [World.store_fst, hcache', Option.map_map]
        rfl
      · intro c hc
        rw [World.store_fst] at hc ⊢
        obtain ⟨c', -, rfl⟩ := Option.map_eq_some_iff.1 hc
        exact c'.getElem?_set key value w'.now
    | error e =>
      obtain ⟨rfl, rfl⟩ := hresult
      refine ⟨_, instants, _, hmeets, hcalls, hsorted, hwithin, rfl, status_of_meets hmeets,
        hcache', ?_⟩
      intro c hc c' hc'
      rw [hcache', hc] at hc'
      cases hc'
      exact c.afterMiss.purgedTo_sweptAt fun t ht => (hwithin t ht).2

/-- The first look-up of a key. -/
theorem lookup_meaning_of_new_key :
    let s : Service := { retry := {}, timeOfDay := fun _ => "" }
    let w₀ := (World.ofSettings {}).1
    ∃ fuel₀ w events,
      (∀ fuel ≥ fuel₀, Session.run fuel (.alone (s.lookup "k") w₀) =
        ⟨w, [⟨s.lookup "k", .finished (.ok ⟨"k", "value:k", false⟩)⟩], events⟩) ∧
      w.calls = [0] ∧ w.available? = some 19 ∧
      ∀ c ∈ w.cache?, c.store.entries["k"]?.map (·.value) = some "value:k" := by
  intro s w₀
  have hgrants : w₀.Grants := by
    rintro _ ⟨⟩
    decide
  have hfirst : (s.plan "k" 0).Meets 0 (Time.after 0 lookupTimeout) [0] (.ok "value:k") :=
    ⟨0, rfl, by simpa using Time.lt_after (by decide) 0, nofun, .inl ⟨trivial, rfl⟩⟩
  obtain ⟨fuel₀, r, w, events, hrun, -, -, hlimiter, -, hmiss⟩ :=
    lookup_meaning s (by decide) "k" (by decide) w₀ (World.orderly_ofSettings {})
  obtain ⟨times, instants, result, hmeets, hcalls, -, -, hend⟩ := hmiss hgrants rfl
  obtain ⟨rfl, rfl⟩ := hmeets.unique hfirst
  obtain ⟨rfl, -, -, hstored⟩ := hend
  refine ⟨fuel₀, w, events, hrun, hcalls, ?_, fun c hc => ?_⟩
  · rw [World.available?, hlimiter hgrants]
    decide
  · rw [hstored c hc]
    rfl

end Service

end Resilience
