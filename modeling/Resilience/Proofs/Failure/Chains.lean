import Resilience.Failure.Transient

/-!
# What a chain of failures comes to

A chain is read from the outermost link on, and a permanent link ends the reading. What it comes to
does not depend on the order all the same : it is worth another try if none of its links is
permanent and one of them is transient (`Link.worthRetrying_eq_true_iff`). So links may change
places, and links that are neither permanent nor transient may be put in anywhere
(`Link.worthRetrying_of_perm_append`), while a permanent link decides wherever it is
(`permanent_link_vetoes`).

Every list of links is the chain of a failure, but that a time limit that ran out has nothing behind
it (`Failure.exists_links_eq_append`). It is the only failure that is seen as one
(`Failure.isElapsed_link_iff`).
-/

namespace Resilience

theorem IoKind.isPermanent_eq_true_iff {kind : IoKind} : kind.isPermanent = true ↔
    kind ∈ [.invalidInput, .invalidData, .notFound, .permissionDenied] := by
  cases kind <;> decide

theorem IoKind.isTransient_eq_false_of_isPermanent {kind : IoKind} (h : kind.isPermanent = true) :
    kind.isTransient = false := by
  cases kind <;> first | rfl | cases h

namespace Link

variable {l : Link} {chain : List Link}

theorem isPermanent_eq_false_iff : l.isPermanent = false ↔ ∀ kind ∈ l.kind?,
    kind ∉ [IoKind.invalidInput, .invalidData, .notFound, .permissionDenied] := by
  simp only [isPermanent, ← IoKind.isPermanent_eq_true_iff, Bool.not_eq_true]
  cases l.kind? <;> simp

/-- A link is transient by its kind, as a time limit that ran out or by its text. -/
theorem isTransient_eq_true_iff : l.isTransient = true ↔
    (∃ kind ∈ l.kind?, kind.isTransient = true) ∨ l.isElapsed = true ∨
      Transient.message l.text = true := by
  rw [isTransient, Bool.or_eq_true, Bool.or_eq_true, or_assoc]
  cases l.kind? <;> simp

theorem isTransient_text (text : String) :
    isTransient { text := text } = Transient.message text := by
  simp [isTransient]

/-- What is said of the links read so far is joined to what the others say. -/
theorem worthRetrying_eq (transient : Bool) (links : List Link) :
    worthRetrying transient links =
      (!links.any isPermanent && (transient || links.any isTransient)) := by
  induction links generalizing transient with
  | nil => simp [worthRetrying]
  | cons l rest ih =>
    rw [worthRetrying, ih]
    cases hl : l.isPermanent with
    | true => simp [hl]
    | false => simp [hl, Bool.or_assoc]

/-- A chain is worth another try if none of its links is permanent and one is transient. -/
theorem worthRetrying_eq_true_iff : worthRetrying false chain = true ↔
    (∀ l ∈ chain, l.isPermanent = false) ∧ ∃ l ∈ chain, l.isTransient = true := by
  rw [worthRetrying_eq, Bool.and_eq_true, Bool.not_eq_true', Bool.false_or, List.any_eq_false,
    List.any_eq_true]
  simp only [Bool.not_eq_true]

/-- A link that is not beyond help and says no more than what is behind it makes no difference. -/
theorem worthRetrying_cons_of_imp (hl : l.isPermanent = false)
    (h : l.isTransient = true → chain.any isTransient = true) :
    worthRetrying false (l :: chain) = worthRetrying false chain := by
  rw [worthRetrying_eq, worthRetrying_eq, List.any_cons, List.any_cons, hl]
  cases hown : l.isTransient with
  | false => rfl
  | true => rw [h hown]; rfl

/-- Neither the order of the links makes a difference nor links that are neither permanent nor
transient, wherever they are. -/
theorem worthRetrying_of_perm_append {larger inserted : List Link}
    (h : larger.Perm (chain ++ inserted))
    (hinserted : ∀ l ∈ inserted, l.isPermanent = false ∧ l.isTransient = false) :
    worthRetrying false larger = worthRetrying false chain := by
  have hpermanent : inserted.any isPermanent = false :=
    List.any_eq_false.2 fun l hl => Bool.not_eq_true _ ▸ (hinserted l hl).1
  have htransient : inserted.any isTransient = false :=
    List.any_eq_false.2 fun l hl => Bool.not_eq_true _ ▸ (hinserted l hl).2
  rw [worthRetrying_eq, worthRetrying_eq, h.any_eq, h.any_eq, List.any_append, List.any_append,
    hpermanent, htransient, Bool.or_false, Bool.or_false]

/-- A chain with a time limit that ran out is worth another try unless a link is permanent. -/
theorem worthRetrying_of_isElapsed (hl : l ∈ chain) (helapsed : l.isElapsed = true)
    (hpermanent : ∀ l ∈ chain, l.isPermanent = false) : worthRetrying false chain = true :=
  worthRetrying_eq_true_iff.2
    ⟨hpermanent, l, hl, isTransient_eq_true_iff.2 (.inr (.inl helapsed))⟩

/-- A permanent link decides, whatever stands before and after it. -/
theorem worthRetrying_of_permanent {before after : List Link} (h : l.isPermanent = true) :
    worthRetrying false (before ++ l :: after) = false := by
  rw [worthRetrying_eq, List.any_append, List.any_cons, h, Bool.true_or, Bool.or_true]
  rfl

end Link

/-! ## Chains of failures -/

/-- Nothing but a time limit that ran out is seen as one. -/
theorem Failure.isElapsed_link_iff {f : Failure} : f.link.isElapsed = true ↔ f = .elapsed := by
  cases f <;> simp [link, isElapsed]

/-- A kind is seen of the failures of input and output alone. -/
theorem Failure.kind?_link_eq_some_iff {f : Failure} {kind : IoKind} :
    f.link.kind? = some kind ↔ ∃ payload, f = .io kind payload := by
  cases f <;> simp [link, kind?]

/-- Whatever is put before the chain of a failure, other than a time limit that ran out, gives the
chain of a failure again. -/
theorem Failure.exists_links_eq_append (before : List Link) (last : Failure)
    (h : ∀ l ∈ before, l.isElapsed = false) : ∃ f : Failure, f.links = before ++ last.links := by
  induction before with
  | nil => exact ⟨last, rfl⟩
  | cons l before ih =>
    rw [List.forall_mem_cons] at h
    obtain ⟨text, kind?, isElapsed⟩ := l
    obtain ⟨f, hf⟩ := ih h.2
    obtain rfl : isElapsed = false := h.1
    rw [List.cons_append, ← hf]
    cases kind? with
    | none => exact ⟨.message text (some f), rfl⟩
    | some kind => exact ⟨.io kind (some (.message text (some f))), rfl⟩

/-- A chain is worth another try exactly if none of its links is of a kind that finds fault with the
request itself and one of them is transient, by its kind, as a time limit that ran out or by its
text. Kinds are seen of failures of input and output alone, and nothing but a time limit that ran
out is seen as one. So the order makes no difference, nor do links that are neither permanent nor
transient ; a permanent link decides from anywhere, and without one a time limit that ran out makes
the chain worth another try. -/
theorem permanent_link_vetoes :
    (∀ {ε : Type} [Chained ε] (e : ε),
      isRetryable e = Link.worthRetrying false (toFailure e).links) ∧
    (∀ chain : List Link, Link.worthRetrying false chain = true ↔
      (∀ l ∈ chain, ∀ kind ∈ l.kind?,
        kind ∉ [IoKind.invalidInput, .invalidData, .notFound, .permissionDenied]) ∧
      ∃ l ∈ chain, (∃ kind ∈ l.kind?, kind.isTransient = true) ∨ l.isElapsed = true ∨
        Transient.message l.text = true) ∧
    (∀ f : Failure, (f.link.isElapsed = true ↔ f = .elapsed) ∧
      ∀ kind, f.link.kind? = some kind ↔ ∃ payload, f = .io kind payload) ∧
    (∀ before after : List Link, (∀ l ∈ before ++ after, l.isPermanent = false) →
      Link.worthRetrying false (before ++ Failure.elapsed.link :: after) = true) ∧
    (∀ chain other : List Link, other.Perm chain →
      Link.worthRetrying false other = Link.worthRetrying false chain) ∧
    (∀ chain inserted larger : List Link,
      (∀ l ∈ inserted, l.isPermanent = false ∧ l.isTransient = false) →
      larger.Perm (chain ++ inserted) →
      Link.worthRetrying false larger = Link.worthRetrying false chain) ∧
    (∀ (before : List Link) (l : Link) (after : List Link), l.isPermanent = true →
      Link.worthRetrying false (before ++ l :: after) = false) ∧
    ∀ (before : List Link) (last : Failure), (∀ l ∈ before, l.isElapsed = false) →
      ∃ f : Failure, f.links = before ++ last.links := by
  refine ⟨fun _ => rfl, fun chain => ?_,
    fun f => ⟨Failure.isElapsed_link_iff, fun kind => Failure.kind?_link_eq_some_iff⟩,
    fun before after h => ?_, fun chain other h => ?_,
    fun chain inserted larger hinserted h => Link.worthRetrying_of_perm_append h hinserted,
    fun before l after h => Link.worthRetrying_of_permanent h, Failure.exists_links_eq_append⟩
  · simp only [Link.worthRetrying_eq_true_iff, Link.isPermanent_eq_false_iff,
      Link.isTransient_eq_true_iff]
  · refine Link.worthRetrying_of_isElapsed (List.mem_append_right _ List.mem_cons_self) rfl ?_
    simp only [List.forall_mem_append, List.forall_mem_cons] at h ⊢
    exact ⟨h.1, rfl, h.2⟩
  · refine Link.worthRetrying_of_perm_append ?_ fun l hl => absurd hl List.not_mem_nil
    rwa [List.append_nil]

/-- A file that is missing decides from either end of a chain with a time limit, although its text
says "unavailable". Without it the chain is worth another try. -/
theorem permanent_link_vetoes_from_both_ends :
    let loading : Link := { text := "loading the page" }
    let late : Link := { text := "gone", kind? := some .timedOut }
    let neutral : Link := { text := "while starting", kind? := some .other }
    let missing : Link := { text := "unavailable", kind? := some .notFound }
    (Link.worthRetrying false [loading, late] = true ∧
      Link.worthRetrying false [late, loading] = true) ∧
    ((neutral.isPermanent = false ∧ neutral.isTransient = false) ∧
      Link.worthRetrying false [loading, neutral, late] = true) ∧
    ((missing.isPermanent = true ∧ missing.isTransient = true) ∧
      Link.worthRetrying false [missing, loading, late] = false ∧
      Link.worthRetrying false [loading, late, missing] = false) ∧
    (Failure.elapsed.link.isElapsed = true ∧
      Link.worthRetrying false [loading, Failure.elapsed.link, neutral] = true) ∧
    ∃ f : Failure, f.links = [loading, late] ++ Failure.elapsed.links := by
  intro loading late neutral missing
  obtain ⟨-, hiff, hseen, helapsed, horder, hneutral, hpermanent, hfailure⟩ :=
    permanent_link_vetoes
  have hworth : Link.worthRetrying false [loading, late] = true :=
    (hiff _).2 ⟨by decide, late, by decide, .inl ⟨.timedOut, rfl, rfl⟩⟩
  have hneither : neutral.isPermanent = false ∧ neutral.isTransient = false := by decide +kernel
  have hbetween : [loading, neutral, late].Perm ([loading, late] ++ [neutral]) :=
    .cons _ (.swap ..)
  refine ⟨⟨hworth, (horder _ _ (.swap ..)).trans hworth⟩, ⟨hneither, ?_⟩, ⟨by decide +kernel,
    hpermanent [] missing _ rfl, hpermanent [loading, late] missing [] rfl⟩,
    ⟨(hseen .elapsed).1.2 rfl, helapsed [loading] [neutral] (by decide)⟩,
    hfailure [loading, late] .elapsed (by decide)⟩
  exact (hneutral _ [neutral] _ (by simpa using hneither) hbetween).trans hworth

end Resilience
