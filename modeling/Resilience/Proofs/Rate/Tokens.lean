import Resilience.Proofs.Rate.Clients

/-!
# One token for each operation

Every client of a limiter has its account : the steps of a crowd that were its turns. What they
come to is told by its phase (`Account`), and a turn keeps the account in order
(`Account.turn`). Whatever the order in which clients take their turns, tokens are asked for
without an operation, the bucket is reset and others change the world, an operation is called once
at most, and only after its client has taken one token, which is the only one it takes. So there are
as many tokens taken as operations called and tokens granted without one
(`one_token_per_operation`).
-/

namespace Resilience.Rate

variable {ε α : Type}

/-! ## Single steps -/

section Steps

variable (doing : Doing) {w w' : World}

/-- A step that leaves the limiter and the calls alone, or asks for a token in vain. -/
theorem idle_of_refused (h : w' = w ∨ w' = w.allow.2 ∧ w.allow.1 = false) :
    Entry.took ⟨doing, w, w'⟩ = false ∧ Entry.invoked ⟨doing, w, w'⟩ = false := by
  rcases h with rfl | ⟨rfl, hrefused⟩
  · exact ⟨took_of_limiter_eq rfl, by simp [Entry.invoked]⟩
  · refine ⟨?_, by simp [Entry.invoked, World.calls_allow]⟩
    rw [Entry.took, took_allow, hrefused, Bool.and_false]

/-- Turns that have neither taken nor called anything, and one more of the kind. -/
theorem idle_snoc {own : List Entry} (htook : own.countP Entry.took = 0)
    (hinvoked : own.countP Entry.invoked = 0) (h : w' = w ∨ w' = w.allow.2 ∧ w.allow.1 = false) :
    (own ++ [(⟨doing, w, w'⟩ : Entry)]).countP Entry.took = 0 ∧
      (own ++ [(⟨doing, w, w'⟩ : Entry)]).countP Entry.invoked = 0 := by
  obtain ⟨htook', hinvoked'⟩ := idle_of_refused doing h
  rw [List.countP_append, List.countP_append, htook, hinvoked]
  simp [htook', hinvoked']

theorem took_of_allowed (hallowed : w.allow.1 = true) :
    Entry.took ⟨doing, w, w.allow.2⟩ = w.limiter?.isSome := by
  rw [Entry.took, took_allow, hallowed, Bool.and_true]

theorem invoked_allow : Entry.invoked ⟨doing, w, w.allow.2⟩ = false := by
  simp [Entry.invoked, World.calls_allow]

theorem took_called : Entry.took ⟨doing, w, w.called⟩ = false := took_of_limiter_eq rfl

theorem invoked_called : Entry.invoked ⟨doing, w, w.called⟩ = true := by
  simp [Entry.invoked, World.called]

end Steps

/-! ## The account of a client -/

/-- The client has taken the token that is needed, if one is, and has then called its operation
once, which has this result. -/
def Called (enabled : Bool) (outcome : World → Outcome ε α) (own : List Entry)
    (result : Except ε α) : Prop :=
  ∃ before e after, own = before ++ e :: after ∧
    before.countP Entry.took = enabled.toNat ∧ before.countP Entry.invoked = 0 ∧
    e.took = false ∧ e.invoked = true ∧
    after.countP Entry.took = 0 ∧ after.countP Entry.invoked = 0 ∧
    result = (outcome e.before).result

/-- What a client's turns come to, by its phase. -/
def Account (enabled isPatient : Bool) (outcome : World → Outcome ε α) (own : List Entry) :
    Phase ε α → Prop
  | .fresh => own = []
  | .seeking => enabled = true ∧ isPatient = true ∧
      own.countP Entry.took = 0 ∧ own.countP Entry.invoked = 0
  | .admitted => own.countP Entry.took = enabled.toNat ∧ own.countP Entry.invoked = 0 ∧
      (enabled = false → own.length = 1)
  | .called result => Called enabled outcome own result
  | .answered answer =>
      (enabled = true ∧ own.countP Entry.took = 0 ∧ own.countP Entry.invoked = 0 ∧
        (isPatient = false ∧ answer = .error .exceeded ∨
          isPatient = true ∧ ∃ reason, answer = .error (.interrupted reason))) ∨
      ∃ result, Called enabled outcome own result ∧ answer = result.mapError .operation

variable {enabled isPatient : Bool} {outcome : World → Outcome ε α} {own : List Entry}

/-- A further turn of an operation that was called takes no token and calls nothing. -/
theorem Called.snoc {result : Except ε α} (h : Called enabled outcome own result) {e : Entry}
    (htook : e.took = false) (hinvoked : e.invoked = false) :
    Called enabled outcome (own ++ [e]) result := by
  obtain ⟨before, call, after, rfl, hbefore, hbefore', hcall, hcall', hafter, hafter', hresult⟩ := h
  refine ⟨before, call, after ++ [e], by simp, hbefore, hbefore', hcall, hcall', ?_, ?_, hresult⟩
  · simp [hafter, htook]
  · simp [hafter', hinvoked]

/-- The call of an operation that has been admitted. -/
theorem Called.of_admitted {doing : Doing} {w : World}
    (htook : own.countP Entry.took = enabled.toNat) (hinvoked : own.countP Entry.invoked = 0) :
    Called enabled outcome (own ++ [⟨doing, w, w.called⟩]) (outcome w).result :=
  ⟨own, _, [], rfl, htook, hinvoked, took_called doing, invoked_called doing, rfl, rfl, rfl⟩

theorem isSome_of_refused {w : World} (h : w.allow.1 = false) : w.limiter?.isSome = true := by
  rw [Option.isSome_iff_ne_none]
  intro hnone
  rw [allow_of_no_limiter hnone] at h
  cases h

/-- A turn in the world `w`, where there is a limiter or none, keeps the account in order. -/
theorem Account.turn (doing : Doing) {w w' : World} {phase phase' : Phase ε α}
    (h : Account enabled isPatient outcome own phase) (henabled : w.limiter?.isSome = enabled)
    (heffect : Effect isPatient outcome w w' phase phase') :
    Account enabled isPatient outcome (own ++ [⟨doing, w, w'⟩]) phase' := by
  cases heffect with
  | seek hpatient hlimited hworld =>
    obtain rfl : own = [] := h
    exact ⟨henabled.symm.trans hlimited, hpatient,
      idle_snoc doing List.countP_nil List.countP_nil (.inl hworld)⟩
  | wait hworld =>
    obtain ⟨hlimited, hpatient, htook, hinvoked⟩ := h
    exact ⟨hlimited, hpatient, idle_snoc doing htook hinvoked hworld⟩
  | refuse hpatient hworld hrefused =>
    obtain rfl : own = [] := h
    obtain ⟨htook, hinvoked⟩ :=
      idle_snoc doing List.countP_nil List.countP_nil (.inr ⟨hworld, hrefused⟩)
    exact .inl ⟨henabled.symm.trans (isSome_of_refused hrefused), htook, hinvoked,
      .inl ⟨hpatient, rfl⟩⟩
  | giveUp hpatient reason hworld =>
    obtain ⟨hlimited, -, htook, hinvoked⟩ := h
    obtain ⟨htook, hinvoked⟩ := idle_snoc doing htook hinvoked hworld
    exact .inl ⟨hlimited, htook, hinvoked, .inr ⟨hpatient, reason, rfl⟩⟩
  | enter hphase hworld hallowed =>
    subst hworld
    obtain ⟨htook, hinvoked, hlength⟩ : own.countP Entry.took = 0 ∧ own.countP Entry.invoked = 0 ∧
        (enabled = false → own.length = 0) := by
      rcases hphase with rfl | rfl
      · obtain rfl : own = [] := h
        exact ⟨rfl, rfl, fun _ => rfl⟩
      · obtain ⟨hlimited, -, htook, hinvoked⟩ := h
        exact ⟨htook, hinvoked, fun hnot => absurd (hlimited.symm.trans hnot) (by decide)⟩
    have htook' : Entry.took ⟨doing, w, w.allow.2⟩ = enabled :=
      (took_of_allowed doing hallowed).trans henabled
    refine ⟨?_, by simp [hinvoked, invoked_allow], fun hnot => by simp [hlength hnot]⟩
    rw [List.countP_append, htook, List.countP_singleton, htook']
    cases enabled <;> rfl
  | call hworld =>
    subst hworld
    obtain ⟨htook, hinvoked, -⟩ := h
    exact .of_admitted htook hinvoked
  | answerAtOnce hworld =>
    subst hworld
    obtain ⟨htook, hinvoked, -⟩ := h
    exact .inr ⟨_, .of_admitted htook hinvoked, rfl⟩
  | await result hworld =>
    obtain ⟨htook, hinvoked⟩ := idle_of_refused doing (.inl hworld)
    exact Called.snoc h htook hinvoked
  | answer result hworld =>
    obtain ⟨htook, hinvoked⟩ := idle_of_refused doing (.inl hworld)
    exact .inr ⟨result, Called.snoc h htook hinvoked, rfl⟩

/-! ## Every step of a crowd -/

/-- The buckets are lawful, and there is a limiter or none. -/
def Limited (capacity rate : Nat) (enabled : Bool) (w : World) : Prop :=
  w.limiter?.isSome = enabled ∧ ∀ l, w.limiter? = some l → l.bucket.Lawful capacity rate

/-- The limiter that a configuration asks for is lawful. -/
theorem limited_withLimiter (c : Config) (w : World) :
    ∃ capacity rate,
      Limited capacity rate c.enabled ({ w with limiter? := none }.withLimiter c).1 := by
  unfold World.withLimiter
  cases c.enabled with
  | true => exact ⟨_, _, rfl, by rintro l ⟨⟩; exact Bucket.lawful_full ..⟩
  | false => exact ⟨0, 0, rfl, nofun⟩

variable {capacity rate : Nat} {w w' : World}

theorem Limited.of_eq (h : Limited capacity rate enabled w) (heq : w'.limiter? = w.limiter?) :
    Limited capacity rate enabled w' := by
  unfold Limited
  rw [heq]
  exact h

/-- What is done to the limiter's bucket alone leaves the limiter in place. -/
theorem Limited.of_call (h : Limited capacity rate enabled w) (action : Action)
    (hlimiter : w'.limiter? = w.limiter?.map fun l =>
      { l with bucket := (l.bucket.call ⟨w.now, action⟩).2 }) :
    Limited capacity rate enabled w' := by
  obtain ⟨henabled, hlawful⟩ := h
  refine ⟨by rw [hlimiter, Option.isSome_map, henabled], fun l' hl' => ?_⟩
  rw [hlimiter, Option.map_eq_some_iff] at hl'
  obtain ⟨l, hl, rfl⟩ := hl'
  exact (hlawful l hl).call _

theorem Limited.allow (h : Limited capacity rate enabled w) :
    Limited capacity rate enabled w.allow.2 := by
  refine h.of_call .take ?_
  unfold World.allow
  cases hl : w.limiter? with
  | none => exact hl
  | some l => rfl

theorem Limited.refill (h : Limited capacity rate enabled w) :
    Limited capacity rate enabled w.refill.1 := by
  refine h.of_call .reset ?_
  unfold World.refill
  cases hl : w.limiter? with
  | none => exact hl
  | some l => rfl

theorem Effect.limited {phase phase' : Phase ε α} (h : Effect isPatient outcome w w' phase phase')
    (hw : Limited capacity rate enabled w) : Limited capacity rate enabled w' := by
  cases h with
  | seek _ _ hworld | await _ hworld | answer _ hworld => exact hworld ▸ hw
  | wait hworld | giveUp _ _ hworld =>
    rcases hworld with rfl | ⟨rfl, -⟩
    · exact hw
    · exact hw.allow
  | refuse _ hworld | enter _ hworld => exact hworld ▸ hw.allow
  | call hworld | answerAtOnce hworld => exact hworld ▸ hw.of_eq rfl

theorem took_refill (h : Limited capacity rate enabled w) : took w w.refill.1 = false := by
  unfold took World.refill
  cases hl : w.limiter? with
  | none => simp
  | some l => exact Bucket.isTaken_reset (h.2 l hl)

/-- Whether a client has its token, and has not yet called its operation. -/
def Phase.isAdmitted : Phase ε α → Bool
  | .admitted => true
  | _ => false

/-- A turn behind a limiter takes a token for one client more that is admitted, and calls an
operation for one fewer. -/
theorem Effect.tokens (doing : Doing) {phase phase' : Phase ε α}
    (h : Effect isPatient outcome w w' phase phase') (henabled : w.limiter?.isSome = true) :
    (Entry.took ⟨doing, w, w'⟩).toNat + phase.isAdmitted.toNat =
      (Entry.invoked ⟨doing, w, w'⟩).toNat + phase'.isAdmitted.toNat := by
  have of_refused : (w' = w ∨ w' = w.allow.2 ∧ w.allow.1 = false) →
      (Entry.took ⟨doing, w, w'⟩).toNat = (Entry.invoked ⟨doing, w, w'⟩).toNat := by
    intro hworld
    obtain ⟨htook, hinvoked⟩ := idle_of_refused doing hworld
    rw [htook, hinvoked]
  have of_called : w' = w.called →
      (Entry.took ⟨doing, w, w'⟩).toNat + 1 = (Entry.invoked ⟨doing, w, w'⟩).toNat := by
    rintro rfl
    rw [took_called, invoked_called]
    rfl
  cases h with
  | seek _ _ hworld | await _ hworld | answer _ hworld =>
    simpa [Phase.isAdmitted] using of_refused (.inl hworld)
  | wait hworld | giveUp _ _ hworld => simpa [Phase.isAdmitted] using of_refused hworld
  | refuse _ hworld hrefused => simpa [Phase.isAdmitted] using of_refused (.inr ⟨hworld, hrefused⟩)
  | enter hphase hworld hallowed =>
    subst hworld
    rw [took_of_allowed doing hallowed, henabled, invoked_allow]
    rcases hphase with rfl | rfl <;> rfl
  | call hworld | answerAtOnce hworld => exact of_called hworld

theorem countP_set_add {γ : Type} (p : γ → Bool) {l : List γ} {i : Nat} {a : γ}
    (h : l[i]? = some a) (b : γ) :
    (l.set i b).countP p + (p a).toNat = l.countP p + (p b).toNat := by
  induction l generalizing i with
  | nil => cases h
  | cons x l ih =>
    cases i with
    | zero =>
      obtain rfl : x = a := Option.some.inj h
      rw [List.set_cons_zero, List.countP_cons, List.countP_cons]
      cases p x <;> cases p b <;> simp
    | succ i =>
      have hrest := ih h
      rw [List.set_cons_succ, List.countP_cons, List.countP_cons]
      omega

namespace Crowd

/-- The accounts of a crowd are in order. -/
structure Accounted (capacity rate : Nat) (enabled : Bool) (cr : Crowd ε α) : Prop where
  limited : Limited capacity rate enabled cr.world
  account : ∀ i c, cr.clients[i]? = some c →
    Account enabled c.isPatient c.outcome (cr.entriesOf i) c.phase
  strangers : ∀ i, cr.clients.length ≤ i → cr.entriesOf i = []
  running : ∀ c ∈ cr.clients, c.phase = .admitted → c.isRunning = true
  tokens : enabled = true → cr.log.countP Entry.took =
    cr.log.countP Entry.invoked + cr.log.countP Entry.isGrant +
      cr.clients.countP (·.phase.isAdmitted)

variable {cr : Crowd ε α}

/-- A step adds to the entries of the client whose turn it was. -/
theorem entriesOf_note (doing : Doing) (u : World) (i : Nat) :
    (cr.note doing u).entriesOf i =
      cr.entriesOf i ++ if doing = .turn i then [⟨doing, cr.world, u⟩] else [] := by
  unfold entriesOf note
  rw [List.filter_append, List.filter_cons, List.filter_nil]
  simp only [Entry.isTurnOf, decide_eq_true_eq]

theorem accounted_opened (c : Config) (w : World) :
    ∃ capacity rate, (opened c w : Crowd ε α).Accounted capacity rate c.enabled := by
  obtain ⟨capacity, rate, h⟩ := limited_withLimiter c w
  exact ⟨capacity, rate, h, nofun, fun _ _ => rfl, nofun, fun _ => rfl⟩

/-- A newcomer has taken no turns yet. -/
theorem Accounted.arrival (h : cr.Accounted capacity rate enabled) (handle? : Option Cancellation)
    (outcome : World → Outcome ε α) :
    (cr.act (.arrival handle? outcome)).Accounted capacity rate enabled := by
  have hfresh : (Client.begin handle? outcome).phase = .fresh := by cases handle? <;> rfl
  refine ⟨h.limited, fun i c hc => ?_, fun i hi => h.strangers i ?_, fun c hc hadmitted => ?_,
    fun henabled => ?_⟩
  · change (cr.clients ++ [Client.begin handle? outcome])[i]? = some c at hc
    rw [List.getElem?_append] at hc
    split at hc
    · exact h.account i c hc
    · have hi : cr.clients.length ≤ i := by omega
      obtain rfl : Client.begin handle? outcome = c :=
        List.mem_singleton.1 (List.mem_of_getElem? hc) |>.symm
      rw [hfresh]
      exact h.strangers i hi
  · change (cr.clients ++ [Client.begin handle? outcome]).length ≤ i at hi
    rw [List.length_append] at hi
    omega
  · rcases List.mem_append.1 hc with hc | hc
    · exact h.running c hc hadmitted
    · rw [List.mem_singleton.1 hc, hfresh] at hadmitted
      cases hadmitted
  · show cr.log.countP Entry.took = _ + _ +
      (cr.clients ++ [Client.begin handle? outcome]).countP (·.phase.isAdmitted)
    rw [List.countP_append, List.countP_singleton, hfresh]
    exact h.tokens henabled

/-- What is done by none of the clients changes no account. -/
theorem Accounted.note (h : cr.Accounted capacity rate enabled) {doing : Doing} {u : World}
    (hdoing : ∀ i, doing ≠ .turn i) (hlimited : Limited capacity rate enabled u)
    (hinvoked : Entry.invoked ⟨doing, cr.world, u⟩ = false)
    (htook : enabled = true → took cr.world u = decide (doing = .allow true)) :
    (cr.note doing u).Accounted capacity rate enabled := by
  have hentries : ∀ i, (cr.note doing u).entriesOf i = cr.entriesOf i := fun i => by
    rw [entriesOf_note, if_neg (hdoing i), List.append_nil]
  refine ⟨hlimited, fun i c hc => ?_, fun i hi => ?_, h.running, fun henabled => ?_⟩
  · rw [hentries]
    exact h.account i c hc
  · rw [hentries]
    exact h.strangers i hi
  · have htokens := h.tokens henabled
    have hsame : Entry.took ⟨doing, cr.world, u⟩ = Entry.isGrant ⟨doing, cr.world, u⟩ :=
      htook henabled
    show (cr.log ++ [_]).countP Entry.took = (cr.log ++ [_]).countP Entry.invoked +
      (cr.log ++ [_]).countP Entry.isGrant + cr.clients.countP (·.phase.isAdmitted)
    simp only [List.countP_append, List.countP_singleton, hsame, hinvoked, Bool.false_eq_true,
      if_false]
    omega

theorem Accounted.turn (h : cr.Accounted capacity rate enabled) {i : Nat} {c c' : Client ε α}
    {u : World} (hc : cr.clients[i]? = some c) (hnext : c.next? cr.world = some (c', u)) :
    (Crowd.note { cr with clients := cr.clients.set i c' } (.turn i) u).Accounted
      capacity rate enabled := by
  obtain ⟨hpatient, houtcome, heffect⟩ := Client.effect_of_next hnext
  have henabled := h.limited.1
  refine ⟨heffect.limited h.limited, fun j d hd => ?_, fun j hj => ?_, fun d hd hadmitted => ?_,
    fun hon => ?_⟩
  · change (cr.clients.set i c')[j]? = some d at hd
    rw [entriesOf_note]
    rw [List.getElem?_set] at hd
    split at hd
    · subst j
      split at hd <;> cases hd
      rw [if_pos rfl, hpatient, houtcome]
      exact (h.account i c hc).turn (.turn i) henabled heffect
    · rw [if_neg (by simpa using ‹¬i = j›), List.append_nil]
      exact h.account j d hd
  · change (cr.clients.set i c').length ≤ j at hj
    rw [List.length_set] at hj
    obtain ⟨hi, -⟩ := List.getElem?_eq_some_iff.1 hc
    have hne : Doing.turn i ≠ .turn j := by
      rintro ⟨⟩
      omega
    rw [entriesOf_note, if_neg hne, List.append_nil]
    exact h.strangers j hj
  · rcases List.mem_or_eq_of_mem_set hd with hd | rfl
    · exact h.running d hd hadmitted
    · exact Client.isRunning_of_next hnext hadmitted
  · have htokens := h.tokens hon
    have hturn := heffect.tokens (.turn i) (henabled.trans hon)
    have hclients := countP_set_add (·.phase.isAdmitted) hc c'
    show (cr.log ++ [_]).countP Entry.took = (cr.log ++ [_]).countP Entry.invoked +
      (cr.log ++ [_]).countP Entry.isGrant + (cr.clients.set i c').countP (·.phase.isAdmitted)
    have hgrant : Entry.isGrant ⟨.turn i, cr.world, u⟩ = false := rfl
    simp only [List.countP_append, List.countP_singleton, hgrant, Bool.false_eq_true, if_false]
    have htoNat : ∀ b : Bool, b.toNat = if b = true then 1 else 0 := by
      rintro (_ | _) <;> rfl
    simp only [htoNat] at hturn hclients
    omega

theorem Accounted.act (h : cr.Accounted capacity rate enabled) (x : Happening ε α) :
    (cr.act x).Accounted capacity rate enabled := by
  cases x with
  | arrival handle? outcome => exact h.arrival handle? outcome
  | turn i =>
    simp only [Crowd.act]
    split
    · rename_i c' u hnext
      obtain ⟨c, hc, hnext⟩ := Option.bind_eq_some_iff.1 hnext
      exact h.turn hc hnext
    · exact h
  | allow =>
    refine h.note nofun h.limited.allow (invoked_allow _) fun hon => ?_
    rw [took_allow, h.limited.1, hon]
    cases cr.world.allow.1 <;> rfl
  | reset =>
    refine h.note nofun h.limited.refill ?_ fun _ => took_refill h.limited
    unfold World.refill
    cases hl : cr.world.limiter? <;> simp [Entry.invoked]
  | elsewhere w =>
    exact h.note nofun (h.limited.of_eq rfl) (by simp [Entry.invoked]) fun _ =>
      took_of_limiter_eq rfl

/-- The account holds all along, however the clients' turns are mixed. -/
theorem Accounted.run (h : cr.Accounted capacity rate enabled) (happenings : List (Happening ε α)) :
    (cr.run happenings).Accounted capacity rate enabled := by
  induction happenings generalizing cr with
  | nil => exact h
  | cons x happenings ih => exact ih (h.act x)

end Crowd

/-! ## The theorem -/

/-- What a client can rely on, given the steps that were its turns : the operation is called once at
most, and only after one token was taken, if there is a limiter, and no other is taken. What the
caller is told is the operation's own result, or the client has neither taken a token nor called the
operation and is refused, if it does not wait, or interrupted, if it does. Without a limiter the
operation is called in the second turn at the latest. -/
structure Client.Served (enabled : Bool) (c : Client ε α) (own : List Entry) : Prop where
  invoked_le : own.countP Entry.invoked ≤ 1
  token : ∀ before e after, own = before ++ e :: after → e.invoked = true →
    before.countP Entry.took = enabled.toNat ∧ (e :: after).countP Entry.took = 0
  answer : ∀ answer, c.answer? = some answer →
    (∃ e ∈ own, e.invoked = true ∧ answer = (c.outcome e.before).result.mapError .operation) ∨
    enabled = true ∧ own.countP Entry.took = 0 ∧ own.countP Entry.invoked = 0 ∧
      (c.isPatient = false ∧ answer = .error .exceeded ∨
        c.isPatient = true ∧ ∃ reason, answer = .error (.interrupted reason))
  unlimited : enabled = false → own.countP Entry.took = 0 ∧
    (2 ≤ own.length → own.countP Entry.invoked = 1)

/-- There is one way to divide a list at its only element with a property. -/
theorem eq_of_append_cons {γ : Type} {p : γ → Bool} {l₁ l₂ m₁ m₂ : List γ} {a b : γ}
    (h : l₁ ++ a :: l₂ = m₁ ++ b :: m₂) (h₁ : l₁.countP p = 0) (h₂ : l₂.countP p = 0)
    (hb : p b = true) : m₁ = l₁ ∧ b = a ∧ m₂ = l₂ := by
  rw [List.countP_eq_zero] at h₁ h₂
  rcases List.append_eq_append_iff.1 h with ⟨rest, rfl, hrest⟩ | ⟨rest, rfl, hrest⟩
  · rcases rest with _ | ⟨x, rest⟩
    · obtain ⟨rfl, rfl⟩ := List.cons.inj hrest
      simp
    · obtain ⟨rfl, rfl⟩ := List.cons.inj hrest
      exact absurd hb (h₂ b (by simp))
  · rcases rest with _ | ⟨x, rest⟩
    · obtain ⟨rfl, rfl⟩ := List.cons.inj hrest
      simp
    · obtain ⟨rfl, rfl⟩ := List.cons.inj hrest
      exact absurd hb (h₁ b (by simp))

theorem Called.invoked_eq {result : Except ε α} (h : Called enabled outcome own result) :
    own.countP Entry.invoked = 1 := by
  obtain ⟨before, e, after, rfl, -, hbefore, -, he, -, hafter, -⟩ := h
  rw [List.countP_append, List.countP_cons, hbefore, hafter, if_pos he]

/-- The token was taken before the call, and none after it. -/
theorem Called.token {result : Except ε α} (h : Called enabled outcome own result)
    {before after : List Entry} {e : Entry} (hown : own = before ++ e :: after)
    (he : e.invoked = true) :
    before.countP Entry.took = enabled.toNat ∧ (e :: after).countP Entry.took = 0 := by
  obtain ⟨before', e', after', heq, htook, hbefore, hcall, -, hafter, hafter', -⟩ := h
  obtain ⟨rfl, rfl, rfl⟩ := eq_of_append_cons (heq.symm.trans hown) hbefore hafter' he
  rw [List.countP_cons, hcall, hafter]
  exact ⟨htook, rfl⟩

theorem Called.took_eq {result : Except ε α} (h : Called enabled outcome own result) :
    own.countP Entry.took = enabled.toNat := by
  obtain ⟨before, e, after, rfl, htook, -, he, -, hafter, -⟩ := h
  rw [List.countP_append, List.countP_cons, htook, he, hafter]
  rfl

/-- A client whose operation has been called, and that is told at most the result of it. -/
theorem Called.served {c : Client ε α} {result : Except ε α}
    (h : Called enabled c.outcome own result)
    (hanswer : ∀ answer, c.answer? = some answer → answer = result.mapError .operation) :
    c.Served enabled own where
  invoked_le := Nat.le_of_eq h.invoked_eq
  token _ _ _ hown he := h.token hown he
  answer answer hc := by
    obtain ⟨before, e, after, hown, -, -, -, he, -, -, hresult⟩ := h
    exact .inl ⟨e, by simp [hown], he, hresult ▸ hanswer answer hc⟩
  unlimited hoff := ⟨by rw [h.took_eq, hoff]; rfl, fun _ => h.invoked_eq⟩

/-- A client whose operation has not been called. -/
theorem served_of_not_called {c : Client ε α} (hinvoked : own.countP Entry.invoked = 0)
    (hanswer : ∀ answer, c.answer? = some answer → enabled = true ∧ own.countP Entry.took = 0 ∧
      (c.isPatient = false ∧ answer = .error .exceeded ∨
        c.isPatient = true ∧ ∃ reason, answer = .error (.interrupted reason)))
    (hoff : enabled = false → own.countP Entry.took = 0 ∧ own.length ≤ 1) :
    c.Served enabled own where
  invoked_le := by omega
  token before e after hown he := by
    rw [List.countP_eq_zero] at hinvoked
    exact absurd he (hinvoked e (by simp [hown]))
  answer answer hc := by
    obtain ⟨hon, htook, hreason⟩ := hanswer answer hc
    exact .inr ⟨hon, htook, hinvoked, hreason⟩
  unlimited hoff' := by
    obtain ⟨htook, hlength⟩ := hoff hoff'
    exact ⟨htook, fun hmore => by omega⟩

/-- What the account of a client says in terms of its own steps. -/
theorem Account.served {c : Client ε α}
    (h : Account enabled c.isPatient c.outcome own c.phase) : c.Served enabled own := by
  have unanswered : ∀ {phase}, c.phase = phase → (∀ answer, phase ≠ .answered answer) →
      ∀ answer, c.answer? ≠ some answer := by
    intro phase hphase hne answer hc
    exact hne answer (hphase.symm.trans (Client.phase_of_answer hc))
  cases hphase : c.phase with
  | fresh =>
    rw [hphase] at h
    obtain rfl : own = [] := h
    exact served_of_not_called rfl (fun answer hc => absurd hc (unanswered hphase nofun answer))
      fun _ => ⟨rfl, Nat.zero_le 1⟩
  | seeking =>
    rw [hphase] at h
    obtain ⟨hon, -, -, hinvoked⟩ := h
    exact served_of_not_called hinvoked
      (fun answer hc => absurd hc (unanswered hphase nofun answer))
      fun hoff => absurd (hon.symm.trans hoff) (by decide)
  | admitted =>
    rw [hphase] at h
    obtain ⟨htook, hinvoked, hlength⟩ := h
    exact served_of_not_called hinvoked
      (fun answer hc => absurd hc (unanswered hphase nofun answer))
      fun hoff => ⟨by rw [htook, hoff]; rfl, Nat.le_of_eq (hlength hoff)⟩
  | called result =>
    rw [hphase] at h
    exact Called.served h fun answer hc => absurd hc (unanswered hphase nofun answer)
  | answered answer =>
    rw [hphase] at h
    have hsame : ∀ answer', c.answer? = some answer' → answer' = answer := by
      intro answer' hc
      rw [Client.phase_of_answer hc] at hphase
      cases hphase
      rfl
    rcases h with ⟨hon, htook, hinvoked, hreason⟩ | ⟨result, hcalled, rfl⟩
    · refine served_of_not_called hinvoked (fun answer' hc => ?_)
        fun hoff => absurd (hon.symm.trans hoff) (by decide)
      rw [hsame answer' hc]
      exact ⟨hon, htook, hreason⟩
    · exact hcalled.served hsame

/-- Whatever happens, in whatever order, every client of a limiter is served as it should be. With a
limiter there is a token taken for every operation called, for every one asked for without an
operation and granted, and for every client that is about to call its operation. So where all
clients wait or have finished there are as many tokens taken as operations called and tokens
granted. -/
theorem one_token_per_operation (c : Config) (w : World) (happenings : List (Happening ε α)) :
    let cr := (Crowd.opened c w : Crowd ε α).run happenings
    (∀ (i : Nat) (client : Client ε α), cr.clients[i]? = some client →
      client.Served c.enabled (cr.entriesOf i)) ∧
    (c.enabled = true →
      cr.log.countP Entry.took = cr.log.countP Entry.invoked + cr.log.countP Entry.isGrant +
        cr.clients.countP (·.phase.isAdmitted) ∧
      ((∀ client ∈ cr.clients, client.isRunning = false) →
        cr.log.countP Entry.invoked + cr.log.countP Entry.isGrant =
          cr.log.countP Entry.took)) := by
  intro cr
  obtain ⟨capacity, rate, hopened⟩ : ∃ capacity rate,
      (Crowd.opened c w : Crowd ε α).Accounted capacity rate c.enabled :=
    Crowd.accounted_opened c w
  have h : cr.Accounted capacity rate c.enabled := hopened.run happenings
  refine ⟨fun i client hclient => (h.account i client hclient).served, fun hon => ?_⟩
  have htokens := h.tokens hon
  refine ⟨htokens, fun hquiet => ?_⟩
  have hnone : cr.clients.countP (·.phase.isAdmitted) = 0 := by
    rw [List.countP_eq_zero]
    intro client hclient hadmitted
    have hphase : client.phase = .admitted := by
      cases hphase : client.phase <;> simp [hphase, Phase.isAdmitted] at hadmitted
      rfl
    have hrunning := h.running client hclient hphase
    rw [hquiet client hclient] at hrunning
    cases hrunning
  omega

/-- Two clients come, the first one calls its operation and the second one tries to. -/
def oneAfterTheOther : List (Happening Unit Nat) :=
  [.arrival none fun _ => ⟨none, .ok 7⟩, .arrival none fun _ => ⟨none, .ok 8⟩,
    .turn 0, .turn 0, .turn 1]

/-- With one token one of them calls its operation and the other is refused. -/
theorem one_token_per_operation_of_two_clients :
    let cr := (Crowd.opened { burst := 1 } {}).run oneAfterTheOther
    cr.clients.map (·.answer?) = [some (.ok 7), some (.error .exceeded)] ∧
      cr.log.countP Entry.invoked + cr.log.countP Entry.isGrant = cr.log.countP Entry.took ∧
      cr.log.countP Entry.took = 1 := by
  intro cr
  obtain ⟨-, htokens⟩ := one_token_per_operation { burst := 1 } {} oneAfterTheOther
  have hquiet : cr.clients.all (!·.isRunning) = true := by decide
  have hawait : ∀ client ∈ cr.clients, client.isRunning = false := fun client hclient => by
    simpa using List.all_eq_true.1 hquiet client hclient
  exact ⟨rfl, (htokens rfl).2 hawait, by decide⟩

end Resilience.Rate
