import Resilience.Proofs.Failure.Chains

/-!
# Failures passed on by a wrapper

A limiter and a retry pass a failure on under its own text and with what is behind it, but the
wrapper stands in the failure's place : its kind, and whether it is a time limit that ran out, are
seen no more (`Failure.links_operation`, `Failure.links_aborted`).

So a wrapped failure is classified by words alone where the failure itself would have been
classified by its kind. `isRetryable_wrapped_eq_iff` says exactly when that makes no difference.
-/

namespace Resilience

namespace Failure

/-- The kind and the time limit aside, whether a failure's text or what is behind it speaks of
trouble that passes. -/
def speaksOfTrouble (f : Failure) : Bool :=
  Transient.message f.text || f.behind.any Link.isTransient

/-- A failure is known by what it is to be worth another try. -/
def isTransientItself (f : Failure) : Bool := f.kind?.any IoKind.isTransient || f.isElapsed

/-- A failure is known by what it is to be beyond help. -/
def isPermanentItself (f : Failure) : Bool := f.kind?.any IoKind.isPermanent

/-- What is behind a failure and what it is itself, apart. -/
theorem isRetryable_eq (f : Failure) : f.isRetryable =
    (!(f.isPermanentItself || f.behind.any Link.isPermanent) &&
      (f.isTransientItself || f.speaksOfTrouble)) := by
  simp only [isRetryable, Link.worthRetrying_eq, links, List.any_cons, Bool.false_or]
  simp only [Link.isPermanent, Link.isTransient, link, isPermanentItself, isTransientItself,
    speaksOfTrouble, Bool.or_assoc]

theorem links_operation (f : Failure) :
    (limited (.operation f)).links = { text := f.text } :: f.behind := rfl

theorem links_aborted (f : Failure) :
    (retried (.aborted f)).links = { text := f.text } :: f.behind := rfl

/-- A failure that is seen by its text alone, with what is behind it. -/
theorem worthRetrying_text_cons (f : Failure) :
    Link.worthRetrying false ({ text := f.text } :: f.behind) =
      (!f.behind.any Link.isPermanent && f.speaksOfTrouble) := by
  simp [Link.worthRetrying_eq, Link.isPermanent, Link.isTransient, speaksOfTrouble]

theorem isTransientItself_eq_false_of_isPermanentItself {f : Failure}
    (h : f.isPermanentItself = true) : f.isTransientItself = false := by
  cases f with
  | io kind payload =>
    have hkind : kind.isPermanent = true := h
    simp [isTransientItself, kind?, isElapsed, IoKind.isTransient_eq_false_of_isPermanent hkind]
  | _ => cases h

/-- Seen by its text alone a failure is classified as it is by itself exactly if something behind
it is beyond help, or if its words and what is behind it tell what its kind tells. -/
theorem worthRetrying_text_cons_eq_iff (f : Failure) :
    Link.worthRetrying false ({ text := f.text } :: f.behind) = f.isRetryable ↔
      f.behind.any Link.isPermanent = true ∨
        (f.isPermanentItself = true → f.speaksOfTrouble = false) ∧
          (f.isTransientItself = true → f.speaksOfTrouble = true) := by
  rw [worthRetrying_text_cons, isRetryable_eq]
  cases hbehind : f.behind.any Link.isPermanent with
  | true => simp
  | false =>
    cases hpermanent : f.isPermanentItself with
    | true =>
      have htransient := isTransientItself_eq_false_of_isPermanentItself hpermanent
      simp [htransient]
    | false =>
      cases f.isTransientItself <;> cases f.speaksOfTrouble <;> simp

end Failure

/-- A failure passed on by a limiter or by a retry that gave up on it is classified as the failure
itself exactly if something behind it is beyond help, or if its words and what is behind it speak
of trouble that passes when the failure itself is known to pass, and do not when it is known to be
beyond help. -/
theorem isRetryable_wrapped_eq_iff {ε : Type} [Chained ε] (e : ε) :
    let f := toFailure e
    let kept := f.behind.any Link.isPermanent = true ∨
      (f.isPermanentItself = true → f.speaksOfTrouble = false) ∧
        (f.isTransientItself = true → f.speaksOfTrouble = true)
    (isRetryable (Rate.Error.operation e) = isRetryable e ↔ kept) ∧
      (isRetryable (Retry.Error.aborted e) = isRetryable e ↔ kept) := by
  intro f kept
  have hseen := f.worthRetrying_text_cons_eq_iff
  constructor
  · rwa [← Failure.links_operation] at hseen
  · rwa [← Failure.links_aborted] at hseen

/-- A refused input whose text says "unavailable" is beyond help until it is wrapped, and a
connection that was reset is worth another try until it is wrapped. -/
theorem isRetryable_wrapped_ne :
    let refused : IoError := ⟨.invalidInput, some "unavailable"⟩
    let reset : IoError := ⟨.connectionReset, some "gone"⟩
    (isRetryable refused = false ∧ isRetryable (Rate.Error.operation refused) = true ∧
      isRetryable (Retry.Error.aborted refused) = true) ∧
    (isRetryable reset = true ∧ isRetryable (Rate.Error.operation reset) = false ∧
      isRetryable (Retry.Error.aborted reset) = false) := by
  decide +kernel

end Resilience
