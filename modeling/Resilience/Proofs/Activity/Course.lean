import Resilience.Activity.Session
import Resilience.Proofs.Cancellation.Waits

/-!
# Activities among others

A `Course` is what an activity goes through, whatever others do : the turns it has taken since it
began, each with the state and the world it was taken in, how it stands now, and the world as it is
now. An activity that goes on takes its next turn in the world its last turn left. While it waits
others may change the world as they like, except that the clock does not go back, that what was
called off stays so (`World.Becomes`), and that timers are punctual : the clock does not pass the
instant at which a timer of the wait fires.

What holds at the start and is kept by turns and by others holds along every course, by induction
on it. A session of one activity follows a course (`Activity.ends_alone`).
-/

namespace Resilience

variable {σ τ α β : Type}

/-- What others may make of a world. -/
structure World.Becomes (w w' : World) : Prop where
  now_le : w.now ≤ w'.now
  cancelled : ∀ t, w.tokens.isCancelled t = true → w'.tokens.isCancelled t = true

/-- What a turn leaves, but for the reports. -/
def Turn.upshot (t : Turn σ α) : Progress σ α × World := (t.progress, t.world)

/-- The state from which the activity is ready to take a turn, if it is. -/
def Progress.ready? (p : Progress σ α) (w : World) : Option σ :=
  match p with
  | running s => some s
  | waiting s wait => if wait.poll w.tokens w.now = .pending then none else some s
  | finished _ => none

/-- The state of an activity that has not finished. -/
def Progress.state? : Progress σ α → Option σ
  | running s | waiting s _ => some s
  | finished _ => none

theorem Progress.state?_of_ready {progress : Progress σ α} {w : World} {s : σ}
    (h : progress.ready? w = some s) : progress.state? = some s := by
  cases progress with
  | running s' => exact h
  | waiting s' wait =>
    have hready : wait.poll w.tokens w.now ≠ .pending ∧ s' = s := by simpa [ready?] using h
    exact congrArg some hready.2
  | finished r => cases h

/-- What has succeeded has finished. -/
theorem Progress.eq_of_success {ε : Type} {progress : Progress σ (Except ε α)} {a : α}
    (h : progress.result?.bind Except.toOption = some a) : progress = .finished (.ok a) := by
  obtain ⟨r, hresult, hok⟩ := Option.bind_eq_some_iff.1 h
  cases progress with
  | running _ | waiting _ _ => cases hresult
  | finished r' =>
    cases hresult
    cases r with
    | error e => cases hok
    | ok a' =>
      cases hok
      rfl

/-- How an activity stands in which another one runs, with its states by `wrap` and its result by
`f`. -/
def Progress.map (wrap : σ → τ) (f : α → β) : Progress σ α → Progress τ β
  | running s => .running (wrap s)
  | waiting s wait => .waiting (wrap s) wait
  | finished a => .finished (f a)

theorem Progress.state?_map (wrap : σ → τ) (f : α → β) (progress : Progress σ α) :
    (progress.map wrap f).state? = progress.state?.map wrap := by
  cases progress <;> rfl

theorem Progress.ready?_map (wrap : σ → τ) (f : α → β) (progress : Progress σ α) (w : World) :
    (progress.map wrap f).ready? w = (progress.ready? w).map wrap := by
  cases progress with
  | running s => rfl
  | waiting s wait =>
    simp only [map, ready?]
    split <;> rfl
  | finished a => rfl

/-- A turn inside another activity goes on as it would by itself, until it comes to an end there. -/
theorem Turn.upshot_inside (t : Turn σ α) (wrap : σ → τ) (andThen : α → World → Turn τ β) :
    (t.inside wrap andThen).upshot =
      match t.upshot with
      | (.running s, w) => (.running (wrap s), w)
      | (.waiting s wait, w) => (.waiting (wrap s) wait, w)
      | (.finished a, w) => (andThen a w).upshot := by
  unfold inside upshot
  cases t.progress <;> rfl

/-- After a turn of an inner activity the outer one goes on with it, waits with it, or does what
follows its end. -/
theorem Turn.inside_cases (t : Turn σ α) (wrap : σ → τ) (andThen : α → World → Turn τ β) :
    (∃ s, (t.inside wrap andThen).progress = .running (wrap s)) ∨
      (∃ s wait, (t.inside wrap andThen).progress = .waiting (wrap s) wait) ∨
        ∃ a, (t.inside wrap andThen).upshot = (andThen a t.world).upshot := by
  rw [upshot_inside, upshot]
  unfold inside
  cases t.progress with
  | running s => exact .inl ⟨s, rfl⟩
  | waiting s wait => exact .inr (.inl ⟨s, wait, rfl⟩)
  | finished a => exact .inr (.inr ⟨a, rfl⟩)

/-- A turn of an inner activity, if the end of that leaves the world alone. -/
theorem Turn.upshot_inside_map {t : Turn σ α} {wrap : σ → τ} {f : α → β}
    {andThen : α → World → Turn τ β}
    (h : ∀ a, t.progress = .finished a → (andThen a t.world).upshot = (.finished (f a), t.world)) :
    (t.inside wrap andThen).upshot = (t.progress.map wrap f, t.world) := by
  rw [upshot_inside, upshot]
  cases hprogress : t.progress with
  | running _ | waiting _ _ => rfl
  | finished a => exact h a hprogress

namespace Activity

/-- From `w₀` on the activity `p` has taken these turns, each given by its state and its world,
and stands as it does in the world as it is. -/
inductive Course (p : Activity σ α) (w₀ : World) :
    List (σ × World) → Progress σ α → World → Prop
  | start : p.Course w₀ [] (.running p.start) w₀
  | turn {turns progress s w} (h : p.Course w₀ turns progress w)
      (hs : progress.ready? w = some s) :
      p.Course w₀ (turns ++ [(s, w)]) (p.turn s w).progress (p.turn s w).world
  | others {turns s wait w w'} (h : p.Course w₀ turns (.waiting s wait) w) (hw : w.Becomes w')
      (hpunctual : w'.now ≤ max w.now wait.nextTick) : p.Course w₀ turns (.waiting s wait) w'

variable (p : Activity σ α)

/-- Whether an operation is called in a turn. -/
def calls (t : σ × World) : Bool := (p.turn t.1 t.2).world.calls ≠ t.2.calls

/-- The instants at which operations were called. -/
def callTimes (turns : List (σ × World)) : List Nat := (turns.filter p.calls).map (·.2.now)

/-- One more turn adds its instant if it calls an operation. -/
theorem callTimes_append (turns : List (σ × World)) (t : σ × World) :
    p.callTimes (turns ++ [t]) = p.callTimes turns ++ if p.calls t then [t.2.now] else [] := by
  rw [callTimes, List.filter_append, List.map_append]
  by_cases h : p.calls t = true <;> simp [callTimes, h]

/-- The turn in which an activity finishes, and how it stood before. -/
theorem Course.last_turn {p : Activity σ α} {w₀ w : World} {turns : List (σ × World)} {r : α}
    (h : p.Course w₀ turns (.finished r) w) :
    ∃ before progress s u, turns = before ++ [(s, u)] ∧ p.Course w₀ before progress u ∧
      progress.ready? u = some s ∧ (p.turn s u).world = w := by
  generalize hprogress : Progress.finished r = progress at h
  cases h with
  | start => cases hprogress
  | @turn before progress s u h hs => exact ⟨before, progress, s, u, rfl, h, hs, rfl⟩
  | others => cases hprogress

end Activity

/-! ## What a session does -/

/-- A slot is a pair of an activity and its progress. -/
theorem Slot.turn?_eq (p : Activity σ α) (progress : Progress σ α) (w : World) :
    (⟨p, progress⟩ : Slot σ α).turn? w = (progress.ready? w).map (p.turn · w) := by
  cases progress with
  | running s => rfl
  | waiting s wait =>
    simp only [turn?, Progress.ready?]
    split <;> rfl
  | finished r => rfl

namespace World

theorem calls_allow (w : World) : w.allow.2.calls = w.calls := by
  unfold allow
  split <;> rfl

/-- What is done to the cache leaves the rest of the world alone. -/
theorem onCache_fst (w : World)
    (f : Cache.Expiring String → Nat → Cache.Expiring String × List Telemetry.Event) :
    (w.onCache f).1 = { w with cache? := w.cache?.map fun c => (f c w.now).1 } := by
  unfold onCache
  cases hc : w.cache? with
  | none =>
    have hsame : { w with cache? := none } = w := by rw [← hc]
    exact hsame.symm
  | some c => rfl

theorem store_fst (w : World) (key value : String) (ttl? : Option Nat) :
    (w.store key value ttl?).1 =
      { w with cache? := w.cache?.map fun c => (c.set key value ttl? w.now).1 } :=
  w.onCache_fst fun c now => c.set key value ttl? now

/-- What becomes of the world in the background. -/
theorem background_fst (w : World) : w.background.1 =
    { w with
      cancels := w.cancels.filter fun c => !Time.fired c.1 w.now
      tokens := (w.cancels.filter fun c => Time.fired c.1 w.now).foldl
        (fun ts c => ts.cancel c.2) w.tokens
      cache? := w.cache?.map fun c => (c.sweep w.now).1 } := by
  have hdue : w.cancelDue =
      { w with
        cancels := w.cancels.filter fun c => !Time.fired c.1 w.now
        tokens := (w.cancels.filter fun c => Time.fired c.1 w.now).foldl
          (fun ts c => ts.cancel c.2) w.tokens } := by
    simp only [cancelDue, List.partition_eq_filter_filter]
    rfl
  rw [background, onCache_fst, hdue]

theorem tokens_background (w : World) : w.background.1.tokens =
    (w.cancels.filter fun c => Time.fired c.1 w.now).foldl (fun ts c => ts.cancel c.2)
      w.tokens := by
  rw [background_fst]

theorem cache?_background (w : World) :
    w.background.1.cache? = w.cache?.map fun c => (c.sweep w.now).1 := by
  rw [background_fst]

theorem cancels_background (w : World) :
    w.background.1.cancels = w.cancels.filter fun c => !Time.fired c.1 w.now := by
  rw [background_fst]

/-- Work in the background takes no time and sets no token free. -/
theorem becomes_background (w : World) : w.Becomes w.background.1 where
  now_le := Nat.le_of_eq w.background_now.symm
  cancelled t ht := by
    rw [tokens_background]
    exact Tokens.isCancelled_cancels ht _

theorem becomes_advance (w : World) (t : Nat) : w.Becomes (w.advance t) :=
  ⟨Nat.le_max_left _ _, fun _ ht => ht⟩

/-- What is not due lies ahead. -/
theorem now_lt_nextTick? {w : World} (h : w.isDue = false) {t : Nat} (ht : w.nextTick? = some t) :
    w.now < t := by
  simp only [isDue, Bool.or_eq_false_iff, List.any_eq_false, Time.fired, decide_eq_true_eq,
    Nat.not_le] at h
  obtain ⟨hcancels, hcache⟩ := h
  have hsweep : ∀ u, (w.cache?.bind Cache.Expiring.nextTick?) = some u → w.now < u := by
    intro u hu
    obtain ⟨c, hc, hcu⟩ := Option.bind_eq_some_iff.1 hu
    simp only [hc, Option.any_some, Cache.Expiring.isDue] at hcache
    unfold Cache.Expiring.nextTick? at hcu
    split at hcu <;> simp_all [Time.fired]
  have hearlier : ∀ (a : Option Nat) (b : Nat), (∀ u, a = some u → w.now < u) → w.now < b →
      ∀ u, Time.earlier a (some b) = some u → w.now < u := by
    intro a b ha hb u hu
    cases a <;> simp_all [Time.earlier]
    omega
  unfold nextTick? at ht
  generalize w.cache?.bind Cache.Expiring.nextTick? = first at hsweep ht
  generalize w.cancels = cancels at hcancels ht
  induction cancels generalizing first with
  | nil => exact hsweep t ht
  | cons c cancels ih =>
    exact ih _ (hearlier _ _ hsweep (hcancels c List.mem_cons_self))
      (fun d hd => hcancels d (List.mem_cons_of_mem _ hd)) ht

/-- The next timer of the background is no later than any cancellation to come. -/
theorem nextTick?_le_of_mem {w : World} {c : Nat × Token} (hc : c ∈ w.cancels) :
    ∃ t, w.nextTick? = some t ∧ t ≤ Time.tick c.1 := by
  have hearlier : ∀ (a : Option Nat) (b : Nat), ∃ t, Time.earlier a (some b) = some t ∧ t ≤ b := by
    intro a b
    cases a with
    | none => exact ⟨b, rfl, Nat.le_refl b⟩
    | some u => exact ⟨min u b, rfl, Nat.min_le_right u b⟩
  have hfold : ∀ (cancels : List (Nat × Token)) (a : Nat), ∃ t,
      cancels.foldl (fun t c => Time.earlier t (some (Time.tick c.1))) (some a) = some t ∧
        t ≤ a := by
    intro cancels
    induction cancels with
    | nil => exact fun a => ⟨a, rfl, Nat.le_refl a⟩
    | cons d cancels ih =>
      intro a
      obtain ⟨t, ht, hle⟩ := ih (min a (Time.tick d.1))
      exact ⟨t, ht, Nat.le_trans hle (Nat.min_le_left _ _)⟩
  unfold nextTick?
  generalize w.cache?.bind Cache.Expiring.nextTick? = first
  generalize w.cancels = cancels at hc
  induction cancels generalizing first with
  | nil => cases hc
  | cons d cancels ih =>
    rcases List.mem_cons.1 hc with rfl | hc
    · obtain ⟨t, ht, hle⟩ := hearlier first (Time.tick c.1)
      obtain ⟨u, hu, hule⟩ := hfold cancels t
      exact ⟨u, by rw [List.foldl_cons, ht, hu], Nat.le_trans hule hle⟩
    · exact ih _ hc

end World

/-! ## What a session keeps -/

/-- What the turns of an activity, the background and the clock all keep of the world. -/
structure World.Kept (p : Activity σ α) (P : World → Prop) : Prop where
  turn : ∀ s {w}, P w → P (p.turn s w).world
  background : ∀ {w}, P w → P w.background.1
  advance : ∀ {w} t, P w → P (w.advance t)

namespace Session

/-- What holds of the world of a session, and is kept by all of its activities. -/
structure Keeps (P : World → Prop) (s : Session σ α) : Prop where
  world : P s.world
  slots : ∀ p ∈ s.slots.map Slot.activity, World.Kept p P

/-- The turn that is taken is one of an activity in the session, and the activities stay. -/
theorem turnOf_eq_some {w : World} {slots slots' : List (Slot σ α)} {t : Turn σ α}
    (h : turnOf w slots = some (t, slots')) :
    (∃ p ∈ slots.map Slot.activity, ∃ s, t = p.turn s w) ∧
      slots'.map Slot.activity = slots.map Slot.activity := by
  induction slots generalizing slots' with
  | nil => cases h
  | cons slot slots ih =>
    obtain ⟨p, progress⟩ := slot
    rw [turnOf, Slot.turn?_eq] at h
    cases hready : progress.ready? w with
    | some s =>
      simp only [hready, Option.map_some, Option.some.injEq, Prod.mk.injEq] at h
      obtain ⟨rfl, rfl⟩ := h
      exact ⟨⟨p, List.mem_cons_self, s, rfl⟩, rfl⟩
    | none =>
      simp only [hready, Option.map_none, Option.map_eq_some_iff, Prod.mk.injEq] at h
      obtain ⟨⟨_, rest⟩, hrest, rfl, rfl⟩ := h
      obtain ⟨⟨q, hq, s, ht⟩, hslots⟩ := ih hrest
      refine ⟨⟨q, List.mem_cons_of_mem _ hq, s, ht⟩, ?_⟩
      rw [List.map_cons, List.map_cons, hslots]

variable {P : World → Prop} {s s' : Session σ α}

/-- What the turns, the background and the clock keep is kept by a step of the session. -/
theorem Keeps.step (h : s.Keeps P) (hs : s.step? = some s') : s'.Keeps P := by
  unfold step? at hs
  split at hs
  · rename_i t slots hturn
    obtain ⟨⟨p, hp, state, rfl⟩, hslots⟩ := turnOf_eq_some hturn
    cases hs
    exact ⟨(h.slots p hp).turn state h.world, hslots ▸ h.slots⟩
  · split at hs
    · cases hs
    · rename_i hunfinished
      -- Some activity has not finished, and keeps what the background and the clock do.
      obtain ⟨slot, hslot, -⟩ : ∃ slot ∈ s.slots, slot.progress.isFinished = false := by
        simpa using hunfinished
      have hkept := h.slots slot.activity (List.mem_map_of_mem hslot)
      split at hs
      · cases hs
        exact ⟨hkept.background h.world, h.slots⟩
      · obtain ⟨t, -, rfl⟩ := Option.map_eq_some_iff.1 hs
        exact ⟨hkept.advance t h.world, h.slots⟩

/-- What all activities of a session keep holds as long as it runs. -/
theorem Keeps.run (h : s.Keeps P) (fuel : Nat) : (Session.run fuel s).Keeps P := by
  induction fuel generalizing s with
  | zero => exact h
  | succ fuel ih =>
    rw [Session.run]
    split
    · rename_i s' hs
      exact ih (h.step hs)
    · exact h

end Session

end Resilience
