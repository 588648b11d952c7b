import Resilience.Proofs.Activity.Course
import Resilience.Proofs.Cache.Presence
import Resilience.Proofs.Cache.Sweeping
import Resilience.Proofs.Service.Traffic

/-!
# Where values come from

Every value that is found is an answer of the resolver for the key that was looked up, and no older
than entries live (`Service.lookup_provenance`). What carries this through the traffic is
`Service.Sound` : each entry of the cache is vouched for by a turn in which the resolver gave it, a
look-up that has not read the cache is the last to have begun and has not called the resolver, and
the account of each turn is settled by the turns before it. One lemma for each thing that can happen
says that it stays so, and one for each kind of turn (`Service.LookTurn`).
-/

namespace Resilience

/-- A coerced lifetime is one that a store accepts as it is. -/
theorem Cache.Config.lifetime_coerced (c : Cache.Config) :
    max c.coerced.defaultTtl Time.shortest = c.coerced.defaultTtl :=
  Nat.max_eq_left (Nat.le_max_right _ _)

namespace Service

theorem Traffic.not_running {tr : Traffic} (hquiet : tr.isQuiet = true) {v : Visit}
    (hv : v ∈ tr.visits) : v.progress.isRunning = false := by
  simpa using List.all_eq_true.1 hquiet v hv

variable {s : Service} {c : Cache.Config}

/-! ## The account -/

/-- Where the value of a look-up comes from that was found in the turn `t`, after the turns
`before`. -/
structure Provenance (s : Service) (c : Cache.Config) (before : List Taken) (t : Taken)
    (f : Found) : Prop where
  key : f.key = t.key
  called : f.cached = false ↔ answersOf s t.visit (before ++ [t]) ≠ []
  own : f.cached = false → t.answer? s = some (.ok f.value) ∧
    (answersOf s t.visit (before ++ [t])).getLast? = some (.ok f.value)
  stored : f.cached = true → c.enabled = true ∧ ∃ u ∈ before, u.visit < t.visit ∧ u.key = t.key ∧
    u.answer? s = some (.ok f.value) ∧ u.world.now ≤ t.world.now ∧
      t.world.now ≤ u.world.now + c.coerced.defaultTtl

/-- What is to be said of a turn : a success says where its value comes from, and any other turn
leaves the contents of the cache as they are. -/
structure Accounted (s : Service) (c : Cache.Config) (before : List Taken) (t : Taken) : Prop where
  success : ∀ r, (t.left s).progress = .finished r → (found r).status = 200 →
    ∃ f, r = .ok f ∧ Provenance s c before t f
  other : (∀ f, (t.left s).progress ≠ .finished (.ok f)) →
    (t.left s).world.contents = t.world.contents

theorem Accounted.of_found {before : List Taken} {t : Taken} {f : Found}
    (hprogress : (t.left s).progress = .finished (.ok f)) (h : Provenance s c before t f) :
    Accounted s c before t where
  success r hr _ := by
    rw [hprogress] at hr
    cases hr
    exact ⟨f, rfl, h⟩
  other hno := absurd hprogress (hno f)

theorem status_found {r : Except Error Found} (h : (found r).status = 200) : ∃ f, r = .ok f := by
  cases r with
  | ok f => exact ⟨f, rfl⟩
  | error e =>
    exfalso
    cases e with
    | interrupted reason => cases reason <;> cases h
    | _ => cases h

/-- How the visit `i` can stand : one that has not read the cache is the last one to have begun, and
has not called the resolver. -/
def Placed (s : Service) (tr : Traffic) (i : Nat) : Progress LookState (Except Error Found) → Prop
  | .running state => state.outside = true ∧
    (state.asked = false → i + 1 = tr.visits.length ∧ answersOf s i tr.turns = [])
  | .waiting state _ => state.outside = true ∧ state.asked = true
  | .finished _ => True

/-- Every entry is an answer of the resolver for its key, and lives for the default lifetime. -/
def Vouched (s : Service) (c : Cache.Config) (turns : List Taken) (store : Cache.Store String) :
    Prop :=
  ∀ k e, store.entries[k]? = some e → ∃ u ∈ turns, u.key = k ∧
    u.answer? s = some (.ok e.value) ∧ e.expiresAt = Time.after u.world.now c.coerced.defaultTtl

/-- What was vouched for once is vouched for after further turns. -/
theorem Vouched.snoc {turns : List Taken} {store : Cache.Store String} (h : Vouched s c turns store)
    (t : Taken) : Vouched s c (turns ++ [t]) store := fun k e he =>
  (h k e he).imp fun _ ⟨hu, hrest⟩ => ⟨List.mem_append_left _ hu, hrest⟩

/-- The turn that stores an answer vouches for it. -/
theorem Vouched.set {turns : List Taken} {store : Cache.Store String} (h : Vouched s c turns store)
    (hlifetime : store.defaultTtl = c.coerced.defaultTtl) {t : Taken} {value : String}
    (hanswer : t.answer? s = some (.ok value)) :
    Vouched s c (turns ++ [t]) (store.set t.key value t.world.now).2 := by
  intro k e he
  have hset := store.getElem?_setFor t.key value store.defaultTtl t.world.now k
  rw [show (store.setFor t.key value store.defaultTtl t.world.now).2.entries[k]? = some e from he]
    at hset
  split at hset <;> rename_i hk
  · cases hset
    refine ⟨t, List.mem_append_right _ List.mem_cons_self, hk, hanswer, ?_⟩
    rw [hlifetime, Cache.Config.lifetime_coerced]
    rfl
  · split at hset
    · cases hset
    · exact h.snoc t k e hset.symm

/-- What holds of traffic at all times. -/
structure Sound (s : Service) (c : Cache.Config) (tr : Traffic) : Prop where
  placed : ∀ i v, tr.visits[i]? = some v → Placed s tr i v.progress
  numbered : ∀ t ∈ tr.turns, t.visit < tr.visits.length
  ended : ∀ t ∈ tr.turns, ∀ r, (t.left s).progress = .finished r →
    ∃ v, tr.visits[t.visit]? = some v ∧ v.progress = .finished r
  past : ∀ t ∈ tr.turns, t.world.now ≤ tr.world.now
  clock : tr.world.now < Time.limit ∨ ∀ t ∈ tr.turns, t.world.now = tr.world.now
  stored : ∀ store, tr.world.contents = some store →
    c.enabled = true ∧ store.defaultTtl = c.coerced.defaultTtl ∧ Vouched s c tr.turns store
  accounted : ∀ before t after, tr.turns = before ++ t :: after → Accounted s c before t

/-! ## What happens between the turns -/

variable {tr : Traffic}

theorem sound_opened (s : Service) (c : Cache.Config) (w : World) : Sound s c (.opened c w) where
  placed i v hv := by cases hv
  numbered t ht := by cases ht
  ended t ht := by cases ht
  past t ht := by cases ht
  clock := .inr fun t ht => by cases ht
  stored store hstore := by
    unfold Traffic.opened World.withCache at hstore
    split at hstore <;> rename_i henabled
    · cases hstore
      exact ⟨henabled, c.lifetime_coerced, fun k e he => by
        simp [Cache.Store.empty] at he⟩
    · cases hstore
  accounted before t after h := by simp [Traffic.opened] at h

theorem answersOf_eq_nil {i : Nat} {turns : List Taken} (h : ∀ t ∈ turns, t.visit ≠ i) :
    answersOf s i turns = [] := by
  have hnone : turns.filter (·.visit = i) = [] :=
    List.filter_eq_nil_iff.2 fun t ht => by simpa using h t ht
  rw [answersOf, hnone]
  rfl

theorem answersOf_snoc (i : Nat) (turns : List Taken) (t : Taken) :
    answersOf s i (turns ++ [t]) =
      answersOf s i turns ++ if t.visit = i then (t.answer? s).toList else [] := by
  unfold answersOf
  rw [List.filter_append, List.filterMap_append]
  by_cases hi : t.visit = i
  · cases ht : t.answer? s <;> simp [hi, ht]
  · simp [hi]

theorem mem_answersOf {turns : List Taken} {u : Taken} (hu : u ∈ turns)
    {a : Except IoError String} (ha : u.answer? s = some a) : a ∈ answersOf s u.visit turns :=
  List.mem_filterMap.2 ⟨u, List.mem_filter.2 ⟨hu, decide_eq_true rfl⟩, ha⟩

/-- How a visit stands is no matter of the turns of others. -/
theorem Placed.take_of_ne {tr : Traffic} {t : Taken} {i : Nat}
    {progress : Progress LookState (Except Error Found)} (h : Placed s tr i progress)
    (hi : t.visit ≠ i) : Placed s (tr.take s t) i progress := by
  cases progress with
  | running state =>
    simpa only [Placed, Traffic.take, List.length_set, answersOf_snoc, hi, if_false,
      List.append_nil] using h
  | waiting state wait => exact h
  | finished r => trivial

namespace Sound

/-- In a sound service what the cache stores is vouched for, and its settings are those
configured. -/
theorem stored_of_cache (h : Sound s c tr) {cache : Cache.Expiring String}
    (hcache : tr.world.cache? = some cache) :
    c.enabled = true ∧ cache.store.defaultTtl = c.coerced.defaultTtl ∧
      Vouched s c tr.turns cache.store :=
  h.stored { cache.store with statistics := {} } (by rw [World.contents, hcache]; rfl)

theorem arrival (h : Sound s c tr) (hquiet : tr.isQuiet = true) (key : String) :
    Sound s c { tr with visits := tr.visits ++ [⟨key, .running (s.lookup key).start⟩] } where
  placed i v hv := by
    rw [List.getElem?_append] at hv
    split at hv
    · have hplaced := h.placed i v hv
      have hrunning := Traffic.not_running hquiet (List.mem_of_getElem? hv)
      cases hprogress : v.progress with
      | running state => simp [hprogress, Progress.isRunning] at hrunning
      | waiting state wait => simpa [hprogress, Placed] using hplaced
      | finished r => trivial
    · rename_i hi
      rw [List.getElem?_singleton] at hv
      split at hv <;> cases hv
      refine ⟨rfl, fun _ => ⟨?_, answersOf_eq_nil fun t ht => ?_⟩⟩
      · rw [List.length_append, List.length_singleton]
        omega
      · have := h.numbered t ht
        omega
  numbered t ht := by
    rw [List.length_append]
    exact Nat.lt_add_right _ (h.numbered t ht)
  ended t ht r hr := by
    obtain ⟨v, hv, hfinished⟩ := h.ended t ht r hr
    exact ⟨v, by rw [List.getElem?_append_left (h.numbered t ht)]; exact hv, hfinished⟩
  past := h.past
  clock := h.clock
  stored := h.stored
  accounted := h.accounted

theorem passage (h : Sound s c tr) {d : Nat} (hclock : tr.world.now + d < Time.limit) :
    Sound s c { tr with world := tr.world.jump d } where
  placed := h.placed
  numbered := h.numbered
  ended := h.ended
  past t ht := Nat.le_trans (h.past t ht) (Nat.le_add_right _ _)
  clock := .inl hclock
  stored := h.stored
  accounted := h.accounted

theorem sweep (h : Sound s c tr) : Sound s c { tr with world := tr.world.background.1 } where
  placed := h.placed
  numbered := h.numbered
  ended := h.ended
  past t ht := by rw [World.background_now]; exact h.past t ht
  clock := by
    rw [World.background_now]
    exact h.clock
  stored store hstore := by
    unfold World.contents at hstore
    rw [World.cache?_background, Option.map_map, Option.map_eq_some_iff] at hstore
    obtain ⟨cache, hcache, rfl⟩ := hstore
    obtain ⟨henabled, hlifetime, hvouched⟩ := h.stored_of_cache hcache
    have hpurged := cache.purgedTo_sweep tr.world.now
    have hkept : (cache.sweep tr.world.now).1.store.defaultTtl = cache.store.defaultTtl :=
      congrArg (·.2.1) hpurged.settings
    exact ⟨henabled, hkept.trans hlifetime, fun k e he => hvouched k e (hpurged.stored k e he)⟩
  accounted := h.accounted

/-! ## Turns -/

/-- A visit that takes a turn stands where it did not finish. -/
theorem of_next? (h : Sound s c tr) {i : Nat} {t : Taken} (hnext : tr.next? i = some t) :
    t.visit = i ∧ t.world = tr.world ∧ i < tr.visits.length ∧ t.state.outside = true ∧
      (t.state.asked = false → i + 1 = tr.visits.length ∧ answersOf s i tr.turns = []) ∧
      ∀ u ∈ tr.turns, u.visit = i → ∀ r, (u.left s).progress ≠ .finished r := by
  unfold Traffic.next? at hnext
  obtain ⟨v, hv, hnext⟩ := Option.bind_eq_some_iff.1 hnext
  have hready : (v.progress.ready? tr.world).map
      (fun state => (⟨i, v.key, state, tr.world⟩ : Taken)) = some t := by
    split at hnext
    · exact hnext
    · cases hnext
  obtain ⟨state, hstate, rfl⟩ := Option.map_eq_some_iff.1 hready
  have hplaced := h.placed i v hv
  have hended : ∀ u ∈ tr.turns, u.visit = i → ∀ r, (u.left s).progress = .finished r →
      v.progress = .finished r := by
    rintro u hu rfl r hr
    obtain ⟨v', hv', hfinished⟩ := h.ended u hu r hr
    rw [hv] at hv'
    cases hv'
    exact hfinished
  have hi : i < tr.visits.length := (List.getElem?_eq_some_iff.1 hv).1
  cases hprogress : v.progress with
  | running state' =>
    rw [hprogress] at hplaced hstate hended
    cases hstate
    exact ⟨rfl, rfl, hi, hplaced.1, hplaced.2, fun u hu hui r hr => nomatch hended u hu hui r hr⟩
  | waiting state' wait =>
    rw [hprogress] at hplaced hstate hended
    obtain rfl : state' = state := by
      unfold Progress.ready? at hstate
      split at hstate <;> simp_all
    refine ⟨rfl, rfl, hi, hplaced.1, fun hasked => ?_,
      fun u hu hui r hr => nomatch hended u hu hui r hr⟩
    rw [hplaced.2] at hasked
    cases hasked
  | finished r =>
    rw [hprogress] at hstate
    cases hstate

/-- What is to be shown of a turn : that the visit stands as it should, that the clock has not
moved, that the contents of the cache are vouched for, and the account of the turn. -/
theorem take_of (h : Sound s c tr) {i : Nat} {t : Taken} (hnext : tr.next? i = some t)
    (hplaced : Placed s (tr.take s t) i (t.left s).progress)
    (hnow : (t.left s).world.now = t.world.now)
    (hstored : ∀ store, (t.left s).world.contents = some store →
      c.enabled = true ∧ store.defaultTtl = c.coerced.defaultTtl ∧
        Vouched s c (tr.turns ++ [t]) store)
    (haccounted : Accounted s c tr.turns t) : Sound s c (tr.take s t) := by
  obtain ⟨rfl, hworld, hi, -, -, hunfinished⟩ := h.of_next? hnext
  rw [hworld] at hnow
  have hmem : ∀ u ∈ (tr.take s t).turns, u ∈ tr.turns ∨ u = t := fun u hu =>
    (List.mem_append.1 hu).imp id List.mem_singleton.1
  constructor
  case placed =>
    intro j v hv
    by_cases hj : t.visit = j
    · subst hj
      rw [Traffic.take, List.getElem?_set_self hi] at hv
      cases hv
      exact hplaced
    · rw [Traffic.take, List.getElem?_set_ne hj] at hv
      exact (h.placed j v hv).take_of_ne hj
  case numbered =>
    intro u hu
    rw [Traffic.take, List.length_set]
    rcases hmem u hu with hu | rfl
    · exact h.numbered u hu
    · exact hi
  case ended =>
    intro u hu r hr
    rcases hmem u hu with hu | rfl
    · -- No visit takes a turn after the one in which it finished.
      have hne : t.visit ≠ u.visit := fun heq => hunfinished u hu heq.symm r hr
      obtain ⟨v, hv, hfinished⟩ := h.ended u hu r hr
      exact ⟨v, by rw [Traffic.take, List.getElem?_set_ne hne]; exact hv, hfinished⟩
    · exact ⟨_, List.getElem?_set_self hi, hr⟩
  case past =>
    intro u hu
    rw [Traffic.take, hnow]
    rcases hmem u hu with hu | rfl
    · exact h.past u hu
    · exact Nat.le_of_eq (congrArg World.now hworld)
  case clock =>
    rw [Traffic.take, hnow]
    refine h.clock.imp id fun hclock u hu => ?_
    rcases hmem u hu with hu | rfl
    · exact hclock u hu
    · rw [hworld]
  case stored => exact hstored
  case accounted =>
    intro before u after hsplit
    rcases Cache.snoc_eq_append_cons hsplit with ⟨rfl, rfl⟩ | ⟨rest, rfl, hold⟩
    · obtain rfl : tr.turns = before := List.append_inj_left' hsplit rfl
      exact haccounted
    · exact h.accounted before u rest hold

/-- A turn after which the look-up goes on or has failed. -/
theorem take_goesOn (h : Sound s c tr) {i : Nat} {t : Taken} (hnext : tr.next? i = some t)
    {asked : Bool} (hgoes : GoesOn asked (t.left s).progress)
    (hasked : asked = false → t.state.asked = false ∧ t.answer? s = none)
    (hnow : (t.left s).world.now = t.world.now)
    (hcontents : (t.left s).world.contents = t.world.contents) : Sound s c (tr.take s t) := by
  obtain ⟨rfl, hworld, -, -, hunasked, -⟩ := h.of_next? hnext
  refine h.take_of hnext ?_ hnow (fun store hstore => ?_)
    ⟨fun r hr hstatus => ?_, fun _ => hcontents⟩
  · generalize (t.left s).progress = progress at hgoes
    cases hgoes with
    | running houtside hstays =>
      refine ⟨houtside, fun hno => ?_⟩
      obtain ⟨hunread, hanswer⟩ : t.state.asked = false ∧ t.answer? s = none := hasked <| by
        cases asked with
        | false => rfl
        | true => rw [hstays rfl] at hno; cases hno
      obtain ⟨hlast, hnone⟩ := hunasked hunread
      simp [Traffic.take, hlast, answersOf_snoc, hnone, hanswer]
    | waiting houtside hstays => exact ⟨houtside, hstays⟩
    | failed => trivial
  · rw [hcontents, hworld] at hstore
    obtain ⟨henabled, hlifetime, hvouched⟩ := h.stored store hstore
    exact ⟨henabled, hlifetime, hvouched.snoc t⟩
  · obtain ⟨f, rfl⟩ := status_found hstatus
    rw [hr] at hgoes
    cases hgoes

/-- A turn in which the cache has the key. -/
theorem take_hit (h : Sound s c tr) {i : Nat} {t : Taken} (hnext : tr.next? i = some t)
    {cache : Cache.Expiring String} {value : String} (hasked : t.state.asked = false)
    (hcache : t.world.cache? = some cache)
    (hlive : cache.store.live? t.key t.world.now = some value)
    (hprogress : (t.left s).progress = .finished (.ok ⟨t.key, value, true⟩))
    (hleft : (t.left s).world =
      { t.world with cache? := some (cache.get t.key t.world.now).2.1 }) :
    Sound s c (tr.take s t) := by
  obtain ⟨rfl, hworld, -, -, hunasked, -⟩ := h.of_next? hnext
  obtain ⟨hlast, hnone⟩ := hunasked hasked
  obtain ⟨henabled, hlifetime, hvouched⟩ := h.stored_of_cache (hworld ▸ hcache)
  have hanswer : t.answer? s = none := by
    rw [Taken.answer?, hleft, if_pos rfl]
  refine h.take_of hnext ?_ (by rw [hleft]) (fun store hstore => ?_) (.of_found hprogress ?_)
  · rw [hprogress]
    trivial
  · rw [hleft] at hstore
    cases hstore
    have hentries := cache.store.entries_get t.key t.world.now
    have hkept := congrArg (·.2.1) (cache.store.settings_get t.key t.world.now)
    exact ⟨henabled, hkept.trans hlifetime,
      fun k e he => hvouched.snoc t k e (by rw [← hentries]; exact he)⟩
  · obtain ⟨e, he, hexpires, rfl⟩ := (cache.store.live?_eq_some_iff _ _ _).1 hlive
    obtain ⟨u, hu, hkey, hresolved, hends⟩ := hvouched t.key e he
    refine ⟨rfl, by simp [answersOf_snoc, hnone, hanswer], by simp, fun _ =>
      ⟨henabled, u, hu, ?_, hkey, hresolved, ?_, ?_⟩⟩
    · -- The visit is the last one to have begun and has had no answer, so `u` belongs to another.
      have hne : u.visit ≠ t.visit := fun heq =>
        List.ne_nil_of_mem (mem_answersOf hu hresolved) (heq ▸ hnone)
      have := h.numbered u hu
      omega
    · rw [hworld]
      exact h.past u hu
    · rw [hends] at hexpires
      refine Time.le_add_of_le_after hexpires ?_
      rw [hworld]
      exact h.clock.imp id fun hall => hall u hu

/-- A turn in which the resolver answers with a value. -/
theorem take_answered (h : Sound s c tr) {i : Nat} {t : Taken} (hnext : tr.next? i = some t)
    {value : String} (hresolver : s.resolver t.world.calls.length t.key = .ok value)
    (hprogress : (t.left s).progress = .finished (.ok ⟨t.key, value, false⟩))
    (hleft : (t.left s).world = (t.world.called.store t.key value none).1) :
    Sound s c (tr.take s t) := by
  obtain ⟨rfl, hworld, -, -, -, -⟩ := h.of_next? hnext
  have hcalls : (t.left s).world.calls = t.world.now :: t.world.calls := by
    rw [hleft]
    exact World.calls_store ..
  have hanswer : t.answer? s = some (.ok value) := by
    rw [Taken.answer?, hcalls, if_neg (List.cons_ne_self _ _), hresolver]
  refine h.take_of hnext ?_ (by rw [hleft, World.store_now]; rfl) (fun store hstore => ?_)
    (.of_found hprogress ?_)
  · rw [hprogress]
    trivial
  · rw [hleft, World.contents_store, Option.map_eq_some_iff] at hstore
    obtain ⟨cache, hcache, rfl⟩ := hstore
    obtain ⟨henabled, hlifetime, hvouched⟩ := h.stored_of_cache (hworld ▸ hcache)
    have hkept := congrArg (·.2.1)
      (cache.store.settings_setFor t.key value cache.store.defaultTtl t.world.now)
    exact ⟨henabled, hkept.trans hlifetime, hvouched.set hlifetime hanswer⟩
  · exact ⟨rfl, by simp [answersOf_snoc, hanswer],
      fun _ => ⟨hanswer, by simp [answersOf_snoc, hanswer]⟩, by simp⟩

/-- Traffic stays sound in every turn. -/
theorem take (h : Sound s c tr) {i : Nat} {t : Taken} (hnext : tr.next? i = some t) :
    Sound s c (tr.take s t) := by
  obtain ⟨-, -, -, houtside, -, -⟩ := h.of_next? hnext
  have hturn : LookTurn s t.key t.state t.world (t.left s).upshot := lookTurn t.state houtside
  generalize hupshot : (t.left s).upshot = upshot at hturn
  cases hturn with
  | plain hgoes hnow hcalls hcontents =>
    obtain ⟨rfl, rfl⟩ := Prod.mk.inj hupshot
    exact h.take_goesOn hnext hgoes (fun hasked => ⟨hasked, if_pos hcalls⟩) hnow hcontents
  | hit hasked hcache hlive =>
    obtain ⟨hprogress, hleft⟩ := Prod.mk.inj hupshot
    exact h.take_hit hnext hasked hcache hlive hprogress hleft
  | refused _ hgoes _ =>
    obtain ⟨rfl, hleft⟩ := Prod.mk.inj hupshot
    exact h.take_goesOn hnext hgoes nofun (by rw [hleft]; rfl) (by rw [hleft]; rfl)
  | answered _ hresolver =>
    obtain ⟨hprogress, hleft⟩ := Prod.mk.inj hupshot
    exact h.take_answered hnext hresolver hprogress hleft

/-- Whatever happens leaves the service sound. -/
theorem act (h : Sound s c tr) (happening : Happening) : Sound s c (tr.act s happening) := by
  cases happening with
  | arrival key =>
    rw [Traffic.act]
    split <;> rename_i hquiet
    · exact h.arrival hquiet key
    · exact h
  | turn visit =>
    rw [Traffic.act]
    cases hnext : tr.next? visit with
    | none => exact h
    | some t => exact h.take hnext
  | sweep =>
    rw [Traffic.act]
    split
    · exact h.sweep
    · exact h
  | passage d =>
    rw [Traffic.act]
    split <;> rename_i hpasses
    · exact h.passage (of_decide_eq_true (Bool.and_eq_true_iff.1 hpasses).2)
    · exact h

/-- A service is sound all along, whatever happens in whatever order. -/
theorem run (h : Sound s c tr) (happenings : List Happening) : Sound s c (tr.run s happenings) := by
  induction happenings generalizing tr with
  | nil => exact h
  | cons happening happenings ih => exact ih (h.act happening)

end Sound

/-- Wherever look-ups come in between one another, a value that is found is what the resolver has
answered for its key : it is this look-up's own answer exactly if it called the resolver, and else
it was the answer to a look-up that began before, and is no older than the lifetime of entries. A
look-up leaves the contents of the cache as they are, unless it finds a value. -/
theorem lookup_provenance (s : Service) (c : Cache.Config) (w : World)
    (happenings : List Happening) :
    let tr := (Traffic.opened c w).run s happenings
    (∀ before t after, tr.turns = before ++ t :: after →
      ∀ r, (t.left s).progress = .finished r → (found r).status = 200 →
        ∃ f, r = .ok f ∧ Provenance s c before t f) ∧
    ∀ i v, tr.visits[i]? = some v → (∀ f, v.progress ≠ .finished (.ok f)) →
      ∀ t ∈ tr.turns, t.visit = i → (t.left s).world.contents = t.world.contents := by
  intro tr
  have hsound : Sound s c tr := (sound_opened s c w).run happenings
  refine ⟨fun before t after hsplit => (hsound.accounted before t after hsplit).success, ?_⟩
  rintro i v hv hunfound t ht rfl
  obtain ⟨before, after, hsplit⟩ := List.append_of_mem ht
  refine (hsound.accounted before t after hsplit).other fun f hf => ?_
  obtain ⟨v', hv', hfound⟩ := hsound.ended t ht (.ok f) hf
  rw [hv] at hv'
  cases hv'
  exact hunfound f hfound

/-- Two look-ups of one key, one after the other : the second finds the answer to the first. -/
theorem lookup_provenance_of_two_lookups :
    let s : Service := { retry := {}, timeOfDay := fun _ => "" }
    let happenings := .arrival "a" :: List.replicate 6 (.turn 0) ++
      .arrival "a" :: List.replicate 3 (.turn 1)
    ∃ before t f, ((Traffic.opened {} {}).run s happenings).turns = before ++ [t] ∧
      (t.left s).progress = .finished (.ok f) ∧ f.cached = true ∧ Provenance s {} before t f := by
  intro s happenings
  have hlast : (((Traffic.opened {} {}).run s happenings).turns.getLast?.bind
      fun t => (t.left s).progress.result?.bind Except.toOption) = some ⟨"a", "value:a", true⟩ := by
    decide +kernel
  obtain ⟨t, ht, hresult⟩ := Option.bind_eq_some_iff.1 hlast
  obtain ⟨before, hsplit⟩ := List.getLast?_eq_some_iff.1 ht
  have hprogress : (t.left s).progress = .finished (.ok ⟨"a", "value:a", true⟩) := by
    cases hp : (t.left s).progress with
    | finished r => cases r <;> simp_all [Progress.result?, Except.toOption]
    | _ => simp [hp, Progress.result?] at hresult
  obtain ⟨f, hf, hprovenance⟩ :=
    (lookup_provenance s {} {} happenings).1 before t [] hsplit _ hprogress rfl
  cases hf
  exact ⟨before, t, _, hsplit, hprogress, rfl, hprovenance⟩

end Service

end Resilience
