import Resilience.Proofs.Failure.Chains
import Resilience.Proofs.Failure.Messages
import Resilience.Proofs.Retry.Schedule

/-!
# Failures of retries that used up their attempts

A retry that used up its attempts puts words and numbers of its own before the text of the last
failure. None of these words starts a word sequence that speaks of trouble that passes, so the whole
speaks of it exactly if the last failure's text does, whatever that text is
(`Transient.message_exhaustedText`). The failure itself stays behind the wrapper, with its kind, so
that the chain is classified as before (`Failure.isRetryable_exhausted`).

With retries around each other all of them therefore tell alike which failures are worth another
attempt (`isRetryable_through_retries`).
-/

namespace Resilience

open Text (IsSeparator words)

namespace Transient

/-- The words that a used up retry puts before the text of the last failure. -/
def preamble (attempts maxAttempts : UInt32) : List String :=
  ["retry", "exhausted", "after"] ++ words (toString attempts.toNat) ++
    words (toString maxAttempts.toNat) ++ ["attempts"]

/-- The words of an exhausted retry are those of a preamble and then the failure's own. -/
theorem words_exhaustedText (attempts maxAttempts : UInt32) (text : String) :
    words (Retry.Error.exhaustedText attempts maxAttempts text) =
      preamble attempts maxAttempts ++ words text := by
  have hspace : IsSeparator ' ' := by decide +kernel
  have hslash : IsSeparator '/' := by decide +kernel
  have hfirst : words "retry exhausted after" = ["retry", "exhausted", "after"] := by
    decide +kernel
  have hlast : words "attempts:" = ["attempts"] := by decide +kernel
  have hcut : Retry.Error.exhaustedText attempts maxAttempts text =
      "retry exhausted after" ++ String.singleton ' ' ++ toString attempts.toNat ++
        String.singleton '/' ++ toString maxAttempts.toNat ++ String.singleton ' ' ++
        "attempts:" ++ String.singleton ' ' ++ text := by
    have hbefore : "retry exhausted after " = "retry exhausted after" ++ String.singleton ' ' := by
      decide +kernel
    have hbetween : "/" = String.singleton '/' := by simp
    have hafter :
        " attempts: " = String.singleton ' ' ++ ("attempts:" ++ String.singleton ' ') := by simp
    unfold Retry.Error.exhaustedText
    rw [hbefore, hbetween, hafter]
    simp only [String.append_assoc]
  rw [hcut, Text.words_append_separator hspace, Text.words_append_separator hspace,
    Text.words_append_separator hslash, Text.words_append_separator hspace, hfirst, hlast, preamble]

/-- No listed word sequence starts with a number or with a word about retries. -/
theorem head_not_mem_preamble {signal : List String} (h : signal ∈ signals)
    (attempts maxAttempts : UInt32) :
    ∀ word ∈ signal.head?, word ∉ preamble attempts maxAttempts := by
  have hheads : ∀ signal ∈ signals, ∀ word ∈ signal.head?, word.toList.all Char.isDigit = false ∧
      word ∉ ["retry", "exhausted", "after"] ∧ word ∉ ["attempts"] := by
    decide
  intro word hword hmem
  obtain ⟨hletter, hfirst, hlast⟩ := hheads signal h word hword
  have hnumber : ∀ n : Nat, word ∉ words (toString n) := fun n hn => by
    rw [List.all_eq_true.2 (Text.isDigit_of_mem_words hn)] at hletter
    cases hletter
  simp only [preamble, List.mem_append] at hmem
  rcases hmem with ((hmem | hmem) | hmem) | hmem
  · exact hfirst hmem
  · exact hnumber _ hmem
  · exact hnumber _ hmem
  · exact hlast hmem

/-- What a used up retry says before the last failure's text makes no difference. -/
theorem message_exhaustedText (attempts maxAttempts : UInt32) (text : String) :
    message (Retry.Error.exhaustedText attempts maxAttempts text) = message text := by
  rw [Bool.eq_iff_iff, message_eq_true_iff, message_eq_true_iff, words_exhaustedText]
  exact exists_infix_append_iff_of_head fun signal hsignal =>
    head_not_mem_preamble hsignal attempts maxAttempts

end Transient

namespace Failure

/-- As the last failure of a used up retry a failure is classified as it is by itself. -/
theorem isRetryable_exhausted (f : Failure) (attempts maxAttempts : UInt32) :
    (retried (.exhausted attempts maxAttempts f)).isRetryable = f.isRetryable := by
  have hlinks : (retried (.exhausted attempts maxAttempts f)).links =
      { text := Retry.Error.exhaustedText attempts maxAttempts f.text } :: f.links := rfl
  rw [isRetryable, isRetryable, hlinks]
  refine Link.worthRetrying_cons_of_imp rfl fun hown => ?_
  rw [Link.isTransient_text, Transient.message_exhaustedText] at hown
  simp [links, Link.isTransient, link, hown]

/-- The failure of used up retries around each other, given the attempts of each and its limit from
the innermost to the outermost. -/
def exhaustedBy (f : Failure) (tries : List (UInt32 × UInt32)) : Failure :=
  tries.foldl (fun g t => retried (.exhausted t.1 t.2 g)) f

/-- Any number of exhausted retries around a failure leave it as retryable as it was. -/
theorem isRetryable_exhaustedBy (f : Failure) (tries : List (UInt32 × UInt32)) :
    (f.exhaustedBy tries).isRetryable = f.isRetryable := by
  induction tries generalizing f with
  | nil => rfl
  | cons t tries ih => exact (ih _).trans (f.isRetryable_exhausted t.1 t.2)

end Failure

namespace Retry

variable {ε α : Type}

/-- The outcome as a retry meets it that calls the operation through used up retries. -/
def through [Chained ε] (tries : List (UInt32 × UInt32)) (o : Outcome ε α) : Outcome Failure α where
  delay? := o.delay?
  result := o.result.mapError fun e => (toFailure e).exhaustedBy tries

/-- What a retry by `runClassified` is given besides its handle, for operations with these
outcomes. -/
def Plan.classified [Chained ε] (c : Config) (samples : Nat → Float)
    (outcomes : Nat → Outcome ε α) : Plan ε α :=
  ⟨c, isRetryable, samples, outcomes⟩

end Retry

/-- A failure is classified alike by itself and as the last failure of a used up retry, or of any
number of them around each other. So a retry around others stops after the same attempt as if it
met the failures themselves. -/
theorem isRetryable_through_retries {ε α : Type} [Chained ε] :
    (∀ (e : ε) (attempts maxAttempts : UInt32),
      isRetryable (Retry.Error.exhausted attempts maxAttempts e) = isRetryable e) ∧
    (∀ (e : ε) (tries : List (UInt32 × UInt32)),
      isRetryable ((toFailure e).exhaustedBy tries) = isRetryable e) ∧
    ∀ (c : Retry.Config) (samples : Nat → Float) (outcomes : Nat → Outcome ε α)
      (tries : Nat → List (UInt32 × UInt32)) (j : Nat),
      (Retry.Plan.classified c samples fun i => Retry.through (tries i) (outcomes i)).Stops j ↔
        (Retry.Plan.classified c samples outcomes).Stops j := by
  refine ⟨fun e => (toFailure e).isRetryable_exhausted,
    fun e => (toFailure e).isRetryable_exhaustedBy, fun c samples outcomes tries j => ?_⟩
  simp only [Retry.Plan.Stops, Retry.Plan.classified, Retry.through]
  cases (outcomes j).result with
  | ok a => exact Iff.rfl
  | error e => exact or_congr_right (Eq.congr_left ((toFailure e).isRetryable_exhaustedBy _))

end Resilience
