import Resilience.Failure.Transient
import Resilience.Proofs.Text.Words

/-!
# What a text says about another try

A text speaks of trouble that passes if it mentions one of the listed word sequences
(`Transient.signals`) among its words (`Transient.message_eq_true_iff`). What stands around a text
with a separator between them therefore hides nothing : the whole speaks of such trouble if a part
does, and otherwise only if a listed sequence lies across a boundary
(`Transient.message_in_context`).

`Transient.exists_infix_append_iff_of_head` is for texts that are put before others : words that
start none of the listed sequences make no difference.
-/

namespace Resilience.Transient

open Text (IsSeparator words runs SmallText)

/-- The word sequences that speak of trouble that passes : the phrases, and a status that passes
after a word that introduces it. -/
def signals : List (List String) :=
  phrases ++ statusWords.flatMap fun v => statuses.map fun w => [v, w]

/-- A signal is a listed phrase, or a word that introduces a status and the status. -/
theorem mem_signals_iff {signal : List String} : signal ∈ signals ↔
    signal ∈ phrases ∨ ∃ v ∈ statusWords, ∃ w ∈ statuses, signal = [v, w] := by
  simp only [signals, List.mem_append, List.mem_flatMap, List.mem_map, eq_comm]

theorem namesStatus_eq_true_iff {ws : List String} : namesStatus ws = true ↔
    ∃ v ∈ statusWords, ∃ w ∈ statuses, [v, w] <:+: ws := by
  induction ws with
  | nil => simp [namesStatus]
  | cons v ws ih =>
    cases ws with
    | nil => simp [namesStatus, List.infix_cons_iff]
    | cons w ws =>
      rw [namesStatus, Bool.or_eq_true, Bool.and_eq_true, List.contains_iff_mem,
        List.contains_iff_mem, ih]
      constructor
      · rintro (⟨hv, hw⟩ | ⟨v', hv, w', hw, hin⟩)
        · exact ⟨v, hv, w, hw, (List.prefix_append [v, w] ws).isInfix⟩
        · exact ⟨v', hv, w', hw, List.infix_cons hin⟩
      · rintro ⟨v', hv, w', hw, hin⟩
        rcases List.infix_cons_iff.1 hin with hfirst | hin
        · simp only [List.cons_prefix_cons, List.nil_prefix, and_true] at hfirst
          obtain ⟨rfl, rfl⟩ := hfirst
          exact .inl ⟨hv, hw⟩
        · exact .inr ⟨v', hv, w', hw, hin⟩

/-- A text speaks of trouble that passes if its words have a signal among them. -/
theorem message_eq_true_iff {s : String} :
    message s = true ↔ ∃ signal ∈ signals, signal <:+: words s := by
  simp only [message, Bool.or_eq_true, List.any_eq_true, Text.mentions_eq_true_iff,
    namesStatus_eq_true_iff, mem_signals_iff]
  constructor
  · rintro (⟨phrase, hphrase, hin⟩ | ⟨v, hv, w, hw, hin⟩)
    · exact ⟨phrase, .inl hphrase, hin⟩
    · exact ⟨_, .inr ⟨v, hv, w, hw, rfl⟩, hin⟩
  · rintro ⟨signal, hphrase | ⟨v, hv, w, hw, rfl⟩, hin⟩
    · exact .inl ⟨signal, hphrase, hin⟩
    · exact .inr ⟨v, hv, w, hw, hin⟩

/-- What the words say decides. -/
theorem message_congr {s t : String} (h : words s = words t) : message s = message t := by
  rw [Bool.eq_iff_iff, message_eq_true_iff, message_eq_true_iff, h]

/-! ## Texts around texts -/

/-- A listed word sequence lies across the boundary between these words : it begins among the ones
and ends among the others. -/
def Straddles (left right : List String) : Prop :=
  ∃ signal ∈ signals, ∃ before after, signal = before ++ after ∧ before ≠ [] ∧ after ≠ [] ∧
    before <:+ left ∧ after <+: right

/-- In two lists of words together there are the signals of each and those across the boundary. -/
theorem exists_infix_append_iff {left right : List String} :
    (∃ signal ∈ signals, signal <:+: left ++ right) ↔
      (∃ signal ∈ signals, signal <:+: left) ∨ (∃ signal ∈ signals, signal <:+: right) ∨
        Straddles left right := by
  constructor
  · rintro ⟨signal, hsignal, hin⟩
    rcases List.infix_append_iff.1 hin with hleft | hright | ⟨before, after, rfl, hbefore, hafter⟩
    · exact .inl ⟨signal, hsignal, hleft⟩
    · exact .inr (.inl ⟨signal, hsignal, hright⟩)
    · -- A sequence that has no word on one side of the boundary lies on the other side.
      by_cases hnone : before = []
      · subst hnone
        exact .inr (.inl ⟨_, hsignal, hafter.isInfix⟩)
      · by_cases hnone' : after = []
        · subst hnone'
          rw [List.append_nil] at hsignal
          exact .inl ⟨_, hsignal, hbefore.isInfix⟩
        · exact .inr (.inr ⟨_, hsignal, before, after, rfl, hnone, hnone', hbefore, hafter⟩)
  · rintro (⟨signal, hsignal, hin⟩ | ⟨signal, hsignal, hin⟩ |
      ⟨_, hsignal, before, after, rfl, -, -, hbefore, hafter⟩)
    · exact ⟨signal, hsignal, List.infix_append_of_infix_left hin⟩
    · exact ⟨signal, hsignal, List.infix_append_of_infix_right hin⟩
    · exact ⟨_, hsignal, List.infix_append_iff.2 (.inr (.inr ⟨_, _, rfl, hbefore, hafter⟩))⟩

/-- Texts put side by side with a separator speak of trouble that passes if one of them does or if
a listed word sequence lies across the boundary. -/
theorem message_append_separator {x : Char} (hx : IsSeparator x) (s t : String) :
    message (s ++ String.singleton x ++ t) = true ↔
      message s = true ∨ message t = true ∨ Straddles (words s) (words t) := by
  rw [message_eq_true_iff, message_eq_true_iff, message_eq_true_iff,
    Text.words_append_separator hx, exists_infix_append_iff]

/-- Words that start none of the listed sequences make no difference to what follows. -/
theorem exists_infix_append_iff_of_head {left right : List String}
    (h : ∀ signal ∈ signals, ∀ word ∈ signal.head?, word ∉ left) :
    (∃ signal ∈ signals, signal <:+: left ++ right) ↔ ∃ signal ∈ signals, signal <:+: right := by
  induction left with
  | nil => rfl
  | cons word left ih =>
    have hrest := ih fun signal hsignal v hv hmem =>
      h signal hsignal v hv (List.mem_cons_of_mem word hmem)
    rw [← hrest]
    refine exists_congr fun signal => and_congr_right fun hsignal => ?_
    rw [List.cons_append, List.infix_cons_iff, or_iff_right_iff_imp]
    intro hfirst
    cases signal with
    | nil => exact List.nil_infix
    | cons v signal =>
      obtain ⟨rfl, -⟩ := List.cons_prefix_cons.1 hfirst
      exact absurd List.mem_cons_self (h _ hsignal _ rfl)

/-- The listed word sequences consist of ASCII characters. -/
theorem signals_ascii {signal : List String} (h : signal ∈ signals) :
    ∀ word ∈ signal, ∀ c ∈ word.toList, c.toNat ≤ 127 := by
  have hall : ∀ signal ∈ signals, ∀ word ∈ signal,
      word.toList.all (fun c => c.toNat ≤ 127) = true := by
    decide
  simpa only [List.all_eq_true, decide_eq_true_eq] using hall signal h

/-- A text between two others, with a separator on either side, hides nothing and is not hidden :
the whole speaks of trouble that passes if one of the three does, and otherwise only if a listed
word sequence lies across a boundary. The case of ASCII letters makes no difference, nor do
separators at the ends, nor which way letters beyond ASCII are put in small letters. -/
theorem message_in_context :
    (∀ (p m s : String) (x y : Char), IsSeparator x → IsSeparator y →
      let whole := p ++ String.singleton x ++ m ++ String.singleton y ++ s
      (message m = true → message whole = true) ∧
      (message whole = true ↔ message p = true ∨ message m = true ∨ message s = true ∨
        Straddles (words p) (words m) ∨ Straddles (words p ++ words m) (words s))) ∧
    (∀ s t : String, s.toList.map Char.toLower = t.toList.map Char.toLower →
      message s = message t) ∧
    (∀ pad s : String, (∀ c ∈ pad.toList, IsSeparator c) →
      message (pad ++ s) = message s ∧ message (s ++ pad) = message s) ∧
    ∀ (s : String) (small : List Char), SmallText s.toList small →
      (message s = true ↔ ∃ signal ∈ signals, signal <:+: (runs [] small).map String.ofList) := by
  refine ⟨fun p m s x y hx hy => ?_, fun s t h => message_congr (Text.words_eq_of_toLower h),
    fun pad s h => ⟨message_congr (Text.words_separators_append h s),
      message_congr (Text.words_append_separators h s)⟩, fun s small h => ?_⟩
  · intro whole
    have hwhole : message whole = true ↔ message p = true ∨ message m = true ∨ message s = true ∨
        Straddles (words p) (words m) ∨ Straddles (words p ++ words m) (words s) := by
      rw [message_append_separator hy, message_append_separator hx,
        Text.words_append_separator hx, or_assoc, or_assoc, or_left_comm (a := Straddles _ _)]
    exact ⟨fun hm => hwhole.2 (.inr (.inl hm)), hwhole⟩
  · rw [message_eq_true_iff]
    exact exists_congr fun signal => and_congr_right fun hsignal =>
      (h.infix_words_iff (signals_ascii hsignal)).symm

/-- A status that stands apart from the word that introduces it speaks across the boundary, also
with that word in capitals and in brackets. -/
theorem message_in_context_of_status_apart :
    let whole := "status" ++ String.singleton ':' ++ "503" ++ String.singleton '\n' ++ "here"
    (message "status" = false ∧ message "503" = false ∧ message "here" = false) ∧
      (IsSeparator ':' ∧ IsSeparator '\n' ∧ Straddles (words "status") (words "503")) ∧
      message whole = true ∧ message "STATUS:503\nhere" = true ∧
      message ("[" ++ "STATUS:503\nhere") = true ∧
      ∃ signal ∈ signals,
        signal <:+: (runs [] (Text.foldCase "STATUS:503\nhere".toList)).map String.ofList := by
  intro whole
  obtain ⟨hcontext, hcase, hpad, hsmall⟩ := message_in_context
  have hx : IsSeparator ':' := by decide +kernel
  have hy : IsSeparator '\n' := by decide +kernel
  have hopen : IsSeparator '[' := by decide +kernel
  have hbracket : ∀ c ∈ "[".toList, IsSeparator c := by simpa using hopen
  have hstatus : words "status" = ["status"] := by decide +kernel
  have hnumber : words "503" = ["503"] := by decide +kernel
  have hacross : Straddles (words "status") (words "503") := by
    rw [hstatus, hnumber]
    exact ⟨["status", "503"], by decide, ["status"], ["503"], rfl, by simp, by simp,
      List.suffix_rfl, List.prefix_rfl⟩
  have hwhole : message whole = true :=
    (hcontext "status" "503" "here" ':' '\n' hx hy).2.2 (.inr (.inr (.inr (.inl hacross))))
  have hcapitals : message "STATUS:503\nhere" = true :=
    (hcase _ whole (by decide +kernel)).trans hwhole
  exact ⟨by decide +kernel, ⟨hx, hy, hacross⟩, hwhole, hcapitals,
    (hpad "[" _ hbracket).1.trans hcapitals,
    (hsmall _ _ (Text.smallText_foldCase _)).1 hcapitals⟩

end Resilience.Transient
