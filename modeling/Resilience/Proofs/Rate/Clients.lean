import Resilience.Activity.Operation
import Resilience.Proofs.Activity.Course
import Resilience.Proofs.Rate.Bucket
import Resilience.Rate.Execute

/-!
# Clients of a limiter

A `Client` is an operation on its way through the limiter, either at once or after a wait, and how
far it has come. It is told by its `Phase` whether it has its token and whether the operation has
been called, and `Client.effect_of_next` lists what a turn may do in each phase.

A token is taken from one world to another if the bucket, refilled, had one and now is that bucket
with one token fewer (`took`). This looks at the buckets alone. It is true of `World.allow` just if
that allows, and of nothing else that is done to a limiter.
-/

namespace Resilience.Rate

/-! ## Tokens taken -/

/-- Whether `b'` is what is left of `b` if a token is taken at `now`. -/
def Bucket.isTaken (b b' : Bucket) (now : Nat) : Bool :=
  decide ((b.refill now).tokens ≠ 0 ∧
    b' = { b.refill now with tokens := (b.refill now).tokens - 1 })

namespace Bucket

variable {b : Bucket} {now : Nat}

/-- A token is seen to be taken exactly if the bucket says so. -/
theorem isTaken_take : b.isTaken (b.take now).2 now = (b.take now).1 := by
  simp [isTaken, take_eq]

/-- No token is taken from a bucket that stays as it is : a refill that adds a token moves the
refill clock. -/
theorem isTaken_self : b.isTaken b now = false := by
  rw [isTaken, decide_eq_false_iff_not]
  rintro ⟨htokens, heq⟩
  by_cases hearned : tokensEarned (now - b.lastRefill) b.rate = 0
  · rw [refill_of_earned_eq_zero hearned] at htokens heq
    have := congrArg tokens heq
    dsimp only at this
    omega
  · rw [refill_of_earned_ne_zero hearned] at heq
    have hlast : b.lastRefill = now := congrArg lastRefill heq
    exact absurd hlast (Nat.ne_of_lt (lastRefill_lt_of_earned_ne_zero hearned))

theorem isTaken_reset {capacity rate : Nat} (h : b.Lawful capacity rate) :
    b.isTaken (b.reset now) now = false := by
  rw [isTaken, decide_eq_false_iff_not]
  rintro ⟨htokens, heq⟩
  have hle := (h.refill now).tokens_le
  have hfull : b.capacity = (b.refill now).tokens - 1 := congrArg tokens heq
  have hcapacity := h.capacity_eq
  omega

end Bucket

/-- Whether a token is taken between two worlds. -/
def took (w w' : World) : Bool :=
  match w.limiter?, w'.limiter? with
  | some l, some l' => l.bucket.isTaken l'.bucket w.now
  | _, _ => false

theorem took_of_limiter_eq {w w' : World} (h : w'.limiter? = w.limiter?) : took w w' = false := by
  unfold took
  rw [h]
  cases w.limiter? with
  | none => rfl
  | some l => exact Bucket.isTaken_self

theorem took_allow (w : World) : took w w.allow.2 = (w.limiter?.isSome && w.allow.1) := by
  unfold took World.allow
  cases hl : w.limiter? with
  | none => simp
  | some l => exact Bucket.isTaken_take

/-! ## Clients -/

variable {ε α : Type}

/-- The state of an operation, once it is called with what it will answer. -/
abbrev Calling (ε α : Type) := Option (Wait × Except ε α)

/-- An operation that goes through the limiter, and how far it has come. The operation's outcome
may depend on the world in which it is called. -/
inductive Client (ε α : Type) where
  | atOnce (outcome : World → Outcome ε α)
      (progress : Progress (Option (Calling ε α)) (Except (Error ε) α))
  | patient (handle : Cancellation) (outcome : World → Outcome ε α)
      (progress : Progress (Waiting (Calling ε α)) (Except (Error ε) α))

/-- What a client has come to. -/
inductive Phase (ε α : Type) where
  | fresh
  /-- It waits for a token. -/
  | seeking
  /-- It need not wait for a token any more, and the operation has not been called yet. -/
  | admitted
  | called (result : Except ε α)
  | answered (answer : Except (Error ε) α)

namespace Phase

/-- How far an operation has come that is refused unless there is a token at once. -/
def ofAtOnce : Option (Calling ε α) → Phase ε α
  | none => fresh
  | some none => admitted
  | some (some (_, result)) => called result

/-- How far an operation has come that waits for a token. -/
def ofPatient : Waiting (Calling ε α) → Phase ε α
  | .opening => fresh
  | .trying _ | .sleeping .. => seeking
  | .running none => admitted
  | .running (some (_, result)) => called result

/-- The phase of an activity whose states have phases. -/
def ofProgress {σ : Type} (f : σ → Phase ε α) : Progress σ (Except (Error ε) α) → Phase ε α
  | .running s | .waiting s _ => f s
  | .finished answer => answered answer

theorem ofProgress_of_state {σ : Type} (f : σ → Phase ε α) {s : σ}
    {progress : Progress σ (Except (Error ε) α)} (h : progress.state? = some s) :
    ofProgress f progress = f s := by
  cases progress <;> cases h <;> rfl

end Phase

namespace Client

/-- A client at its start, with a handle if it is to wait for a token. -/
def begin (handle? : Option Cancellation) (outcome : World → Outcome ε α) : Client ε α :=
  match handle? with
  | none => .atOnce outcome (.running (execute (.call outcome)).start)
  | some handle =>
    .patient handle outcome (.running (executeWithWait handle (.call outcome)).start)

/-- Whether the client waits for a token. -/
def isPatient : Client ε α → Bool
  | atOnce .. => false
  | patient .. => true

/-- What the client's operation comes to, by the world in which it is called. -/
def outcome : Client ε α → World → Outcome ε α
  | atOnce outcome _ | patient _ outcome _ => outcome

/-- What the operation's caller is told, once the client has finished. -/
def answer? : Client ε α → Option (Except (Error ε) α)
  | atOnce _ progress => progress.result?
  | patient _ _ progress => progress.result?

/-- Whether the client goes on before it next waits. -/
def isRunning : Client ε α → Bool
  | atOnce _ (.running _) | patient _ _ (.running _) => true
  | _ => false

/-- The client and the world after its next turn, unless it has finished. -/
def next? (w : World) : Client ε α → Option (Client ε α × World)
  | atOnce outcome progress =>
    progress.state?.map fun s =>
      let t := (execute (.call outcome)).turn s w
      (.atOnce outcome t.progress, t.world)
  | patient handle outcome progress =>
    progress.state?.map fun s =>
      let t := (executeWithWait handle (.call outcome)).turn s w
      (.patient handle outcome t.progress, t.world)

/-- How far the client has come. -/
def phase : Client ε α → Phase ε α
  | atOnce _ progress => .ofProgress .ofAtOnce progress
  | patient _ _ progress => .ofProgress .ofPatient progress

theorem phase_of_answer {c : Client ε α} {answer : Except (Error ε) α}
    (h : c.answer? = some answer) : c.phase = .answered answer := by
  have finished : ∀ {σ : Type} (f : σ → Phase ε α) {progress : Progress σ (Except (Error ε) α)},
      progress.result? = some answer → Phase.ofProgress f progress = .answered answer := by
    intro σ f progress hresult
    cases progress <;> cases hresult
    rfl
  cases c with
  | atOnce outcome progress => exact finished _ h
  | patient handle outcome progress => exact finished _ h

end Client

/-! ## One turn -/

/-- What a turn may do to a client that calls its operation with this outcome, by the phases before
and after it. -/
inductive Effect (isPatient : Bool) (outcome : World → Outcome ε α) (w w' : World) :
    Phase ε α → Phase ε α → Prop
  | seek (hpatient : isPatient = true) (hlimited : w.limiter?.isSome = true) (hworld : w' = w) :
      Effect isPatient outcome w w' .fresh .seeking
  | wait (hworld : w' = w ∨ w' = w.allow.2 ∧ w.allow.1 = false) :
      Effect isPatient outcome w w' .seeking .seeking
  | refuse (hpatient : isPatient = false) (hworld : w' = w.allow.2) (hrefused : w.allow.1 = false) :
      Effect isPatient outcome w w' .fresh (.answered (.error .exceeded))
  | giveUp (hpatient : isPatient = true) (reason : Interruption)
      (hworld : w' = w ∨ w' = w.allow.2 ∧ w.allow.1 = false) :
      Effect isPatient outcome w w' .seeking (.answered (.error (.interrupted reason)))
  | enter {phase} (hphase : phase = .fresh ∨ phase = .seeking) (hworld : w' = w.allow.2)
      (hallowed : w.allow.1 = true) : Effect isPatient outcome w w' phase .admitted
  | call (hworld : w' = w.called) :
      Effect isPatient outcome w w' .admitted (.called (outcome w).result)
  | answerAtOnce (hworld : w' = w.called) :
      Effect isPatient outcome w w' .admitted
        (.answered ((outcome w).result.mapError .operation))
  | await (result : Except ε α) (hworld : w' = w) :
      Effect isPatient outcome w w' (.called result) (.called result)
  | answer (result : Except ε α) (hworld : w' = w) :
      Effect isPatient outcome w w' (.called result) (.answered (result.mapError .operation))

section Turns

variable {outcome : World → Outcome ε α} {w : World}

/-- Without a limiter a token is not needed. -/
theorem allow_of_no_limiter (h : w.limiter? = none) : w.allow = (true, w) := by
  unfold World.allow
  rw [h]

/-- A turn of the operation itself, once it has been admitted. -/
theorem effect_operationTurn {τ : Type} (span : String) (wrap : Calling ε α → τ)
    (f : τ → Phase ε α) (hadmitted : f (wrap none) = .admitted)
    (hcalled : ∀ wait result, f (wrap (some (wait, result))) = .called result)
    (isPatient : Bool) (s : Calling ε α) :
    Effect isPatient outcome w (operationTurn span (.call outcome) wrap s w).world (f (wrap s))
      (.ofProgress f (operationTurn span (.call outcome) wrap s w).progress) := by
  cases s with
  | none =>
    rw [hadmitted]
    cases hd : (outcome w).delay? with
    | none =>
      simp only [operationTurn, Activity.call, hd]
      exact .answerAtOnce rfl
    | some d =>
      simp only [operationTurn, Activity.call, hd, Turn.inside, Phase.ofProgress, hcalled]
      exact .call rfl
  | some state =>
    obtain ⟨wait, result⟩ := state
    rw [hcalled]
    cases hpoll : wait.poll w.tokens w.now with
    | pending =>
      simp only [operationTurn, Activity.call, hpoll, Turn.inside, Phase.ofProgress, hcalled]
      exact .await result rfl
    | «over» =>
      simp only [operationTurn, Activity.call, hpoll]
      exact .answer result rfl
    | interrupted reason =>
      simp only [operationTurn, Activity.call, hpoll]
      exact .answer result rfl

/-- What a turn of an operation that does not wait makes of its world and its phase. -/
theorem effect_execute (s : Option (Calling ε α)) :
    Effect false outcome w ((execute (.call outcome)).turn s w).world (.ofAtOnce s)
      (.ofProgress .ofAtOnce ((execute (.call outcome)).turn s w).progress) := by
  cases s with
  | none =>
    cases hl : w.limiter? with
    | none =>
      have hallow := allow_of_no_limiter hl
      simp only [execute, hl]
      exact .enter (.inl rfl) (by rw [hallow]) (by rw [hallow])
    | some l =>
      cases hallow : w.allow.1 with
      | true =>
        simp only [execute, hl, hallow, if_true]
        exact .enter (.inl rfl) rfl hallow
      | false =>
        simp only [execute, hl, hallow, Bool.false_eq_true, if_false]
        exact .refuse rfl rfl hallow
  | some s =>
    exact effect_operationTurn executeSpan some Phase.ofAtOnce rfl (fun _ _ => rfl) false s

theorem effect_tryToken (handle : Cancellation) (since : Nat) :
    Effect true outcome w (tryToken handle (.call outcome) since w).world .seeking
      (.ofProgress .ofPatient (tryToken handle (.call outcome) since w).progress) := by
  unfold tryToken
  cases handle.check w.tokens w.now with
  | some reason => exact .giveUp rfl reason (.inl rfl)
  | none =>
    cases hallow : w.allow.1 with
    | true =>
      simp only [hallow, if_true]
      exact .enter (.inr rfl) rfl hallow
    | false =>
      simp only [hallow, Bool.false_eq_true, if_false]
      split
      · exact .giveUp rfl _ (.inr ⟨rfl, hallow⟩)
      · exact .wait (.inr ⟨rfl, hallow⟩)

/-- What a turn of an operation that waits for a token makes of them. -/
theorem effect_executeWithWait (handle : Cancellation) (s : Waiting (Calling ε α)) :
    Effect true outcome w ((executeWithWait handle (.call outcome)).turn s w).world (.ofPatient s)
      (.ofProgress .ofPatient ((executeWithWait handle (.call outcome)).turn s w).progress) := by
  cases s with
  | opening =>
    cases hl : w.limiter? with
    | none =>
      have hallow := allow_of_no_limiter hl
      simp only [executeWithWait, hl, Option.isSome_none, Bool.false_eq_true, if_false]
      exact .enter (.inl rfl) (by rw [hallow]) (by rw [hallow])
    | some l =>
      simp only [executeWithWait, hl, Option.isSome_some, if_true]
      exact .seek rfl (by rw [hl]; rfl) rfl
  | trying since => exact effect_tryToken handle since
  | sleeping since wait =>
    simp only [executeWithWait]
    cases wait.poll w.tokens w.now with
    | pending => exact .wait (.inl rfl)
    | «over» => exact .wait (.inl rfl)
    | interrupted reason => exact .giveUp rfl reason (.inl rfl)
  | running s =>
    exact effect_operationTurn waitSpan Waiting.running Phase.ofPatient rfl (fun _ _ => rfl) true s

/-- A turn keeps the client's mode and its operation, and does what its phase lets it do. -/
theorem Client.effect_of_next {c c' : Client ε α} {w' : World} (h : c.next? w = some (c', w')) :
    c'.isPatient = c.isPatient ∧ c'.outcome = c.outcome ∧
      Effect c.isPatient c.outcome w w' c.phase c'.phase := by
  cases c with
  | atOnce outcome progress =>
    obtain ⟨s, hs, heq⟩ := Option.map_eq_some_iff.1 h
    obtain ⟨rfl, rfl⟩ := Prod.mk.inj heq
    refine ⟨rfl, rfl, ?_⟩
    rw [phase, Phase.ofProgress_of_state _ hs]
    exact effect_execute s
  | patient handle outcome progress =>
    obtain ⟨s, hs, heq⟩ := Option.map_eq_some_iff.1 h
    obtain ⟨rfl, rfl⟩ := Prod.mk.inj heq
    refine ⟨rfl, rfl, ?_⟩
    rw [phase, Phase.ofProgress_of_state _ hs]
    exact effect_executeWithWait handle s

/-! ### Waits -/

/-- An operation that waits has been called. -/
theorem operationTurn_waiting {τ : Type} {span : String} {wrap : Calling ε α → τ}
    {s : Calling ε α} {s' : τ} {wait : Wait}
    (h : (operationTurn span (.call outcome) wrap s w).progress = .waiting s' wait) :
    ∃ called, s' = wrap (some called) := by
  rcases s with _ | ⟨wait', result⟩
  · cases hd : (outcome w).delay? <;> simp [operationTurn, Activity.call, hd, Turn.inside] at h
  · cases hpoll : wait'.poll w.tokens w.now <;>
      simp [operationTurn, Activity.call, hpoll, Turn.inside] at h
    exact ⟨_, h.1.symm⟩

theorem execute_waiting {s s' : Option (Calling ε α)} {wait : Wait}
    (h : ((execute (.call outcome)).turn s w).progress = .waiting s' wait) :
    ∃ called, s' = some (some called) := by
  cases s with
  | none =>
    cases hl : w.limiter? with
    | none => simp [execute, hl] at h
    | some l => cases hallow : w.allow.1 <;> simp [execute, hl, hallow] at h
  | some s => exact operationTurn_waiting h

theorem executeWithWait_waiting {handle : Cancellation} {s s' : Waiting (Calling ε α)} {wait : Wait}
    (h : ((executeWithWait handle (.call outcome)).turn s w).progress = .waiting s' wait) :
    Phase.ofPatient s' ≠ .admitted := by
  cases s with
  | opening => cases hl : w.limiter? <;> simp [executeWithWait, hl] at h
  | trying since =>
    simp only [executeWithWait, tryToken] at h
    split at h
    · cases h
    · split at h
      · cases h
      · split at h <;> cases h
  | sleeping since wait' =>
    cases hpoll : wait'.poll w.tokens w.now <;> simp [executeWithWait, hpoll, giveUp] at h
    obtain ⟨rfl, -⟩ := h
    nofun
  | running s =>
    obtain ⟨called, rfl⟩ := operationTurn_waiting h
    nofun

/-- A client that has been admitted goes on at once to call its operation. -/
theorem Client.isRunning_of_next {c c' : Client ε α} {w' : World} (h : c.next? w = some (c', w'))
    (hadmitted : c'.phase = .admitted) : c'.isRunning = true := by
  cases c with
  | atOnce outcome progress =>
    obtain ⟨s, hs, heq⟩ := Option.map_eq_some_iff.1 h
    obtain ⟨rfl, rfl⟩ := Prod.mk.inj heq
    cases hprogress : ((execute (.call outcome)).turn s w).progress with
    | running s' => rfl
    | finished answer =>
      rw [phase, hprogress] at hadmitted
      cases hadmitted
    | waiting s' wait =>
      obtain ⟨called, rfl⟩ := execute_waiting hprogress
      rw [phase, hprogress] at hadmitted
      cases hadmitted
  | patient handle outcome progress =>
    obtain ⟨s, hs, heq⟩ := Option.map_eq_some_iff.1 h
    obtain ⟨rfl, rfl⟩ := Prod.mk.inj heq
    cases hprogress : ((executeWithWait handle (.call outcome)).turn s w).progress with
    | running s' => rfl
    | finished answer =>
      rw [phase, hprogress] at hadmitted
      cases hadmitted
    | waiting s' wait =>
      rw [phase, hprogress] at hadmitted
      exact absurd hadmitted (executeWithWait_waiting hprogress)

end Turns

/-! ## A crowd of clients -/

/-- What was done in one step of a crowd. -/
inductive Doing where
  /-- A turn of a client, by its number in the order in which the clients came. -/
  | turn (client : Nat)
  /-- A token asked for without an operation, and the answer. -/
  | allow (allowed : Bool)
  | reset
  | elsewhere
deriving DecidableEq, Repr

/-- A step, and the worlds before and after it. -/
structure Entry where
  doing : Doing
  before : World
  after : World

namespace Entry

variable (e : Entry)

/-- Whether a token was taken. -/
def took : Bool := Rate.took e.before e.after

/-- Whether an operation was called. -/
def invoked : Bool := decide (e.after.calls ≠ e.before.calls)

/-- Whether it was this client's turn. -/
def isTurnOf (client : Nat) : Bool := e.doing = .turn client

/-- Whether a token was asked for without an operation, and granted. -/
def isGrant : Bool := e.doing = .allow true

end Entry

/-- Clients in a world, and what was done so far. -/
structure Crowd (ε α : Type) where
  world : World
  clients : List (Client ε α) := []
  log : List Entry := []

/-- What happens next. -/
inductive Happening (ε α : Type) where
  /-- A client comes with its operation, and a handle if it will wait for a token. -/
  | arrival (handle? : Option Cancellation) (outcome : World → Outcome ε α)
  | turn (client : Nat)
  | allow
  | reset
  /-- Anything else that makes another world of the present one. -/
  | elsewhere (w : World)

namespace Crowd

/-- No client yet, in a world with the limiter that a configuration asks for. -/
def opened (c : Config) (w : World) : Crowd ε α :=
  { world := ({ w with limiter? := none }.withLimiter c).1 }

variable (cr : Crowd ε α)

/-- The steps that were turns of this client. -/
def entriesOf (client : Nat) : List Entry := cr.log.filter (·.isTurnOf client)

/-- The crowd in another world, with the step to it in the log. -/
def note (doing : Doing) (w : World) : Crowd ε α :=
  { cr with world := w, log := cr.log ++ [⟨doing, cr.world, w⟩] }

/-- A turn of a client that has finished makes no difference. Elsewhere the limiter is left alone
and no operation of a client is called. -/
def act : Happening ε α → Crowd ε α
  | .arrival handle? outcome => { cr with clients := cr.clients ++ [.begin handle? outcome] }
  | .turn i =>
    match cr.clients[i]?.bind (·.next? cr.world) with
    | some (c, w) => { cr with clients := cr.clients.set i c }.note (.turn i) w
    | none => cr
  | .allow => cr.note (.allow cr.world.allow.1) cr.world.allow.2
  | .reset => cr.note .reset cr.world.refill.1
  | .elsewhere w =>
    cr.note .elsewhere { w with limiter? := cr.world.limiter?, calls := cr.world.calls }

/-- One happening after the other. -/
def run (happenings : List (Happening ε α)) : Crowd ε α := happenings.foldl act cr

end Crowd

end Resilience.Rate
