import Mathlib.Data.List.Forall2
import Resilience.Text.Words

/-!
# The words of a text and of its parts

A character that belongs to no word ends the word before it, so that a text with such a character
in it has the words of what stands before it and then those of what follows
(`words_append_separator`), and a text of nothing else has no words. Capital letters count as
small ones (`words_eq_of_toLower`).

A text may be put in small letters in more ways than the one `foldCase` takes : what becomes of
letters beyond ASCII may depend on the letters around them, and their number may change. As long as
letters beyond ASCII become such letters (`SmallText`) all these ways agree on where the text has
words of ASCII letters (`SmallText.infix_words_iff`).
-/

namespace Resilience.Text

/-! ## Characters -/

/-- A character that stands between words. -/
def IsSeparator (c : Char) : Prop := isAlphanumeric c = false ∧ c ≠ '_'

instance : DecidablePred IsSeparator := fun _ => inferInstanceAs (Decidable (_ ∧ _))

theorem isSeparator_iff {c : Char} : IsSeparator c ↔ isWordChar c = false := by
  simp [IsSeparator, isWordChar]

theorem isWordChar_of_isUpper {c : Char} (h : c.isUpper = true) : isWordChar c = true := by
  have hrange : isAlphanumeric c = true :=
    inRanges_iff.2 ⟨(0x41, 0x5a), by decide, of_decide_eq_true h⟩
  simp [isWordChar, hrange]

theorem foldChar_of_not_isUpper {c : Char} (hkelvin : c ≠ '\u212a') (hdotted : c ≠ '\u0130')
    (hcapital : c.isUpper = false) : foldChar c = [c] := by
  have hlower : c.toLower = c := dif_neg (of_decide_eq_false hcapital)
  rw [foldChar, if_neg hkelvin, if_neg hdotted, hlower]

/-- A separator has no other small form. -/
theorem foldChar_of_separator {c : Char} (h : IsSeparator c) : foldChar c = [c] := by
  have hword := isSeparator_iff.1 h
  have hkelvin : isWordChar '\u212a' = true := by decide +kernel
  have hdotted : isWordChar '\u0130' = true := by decide +kernel
  have hne : ∀ d, isWordChar d = true → c ≠ d := by
    rintro d hd rfl
    rw [hword] at hd
    cases hd
  refine foldChar_of_not_isUpper (hne _ hkelvin) (hne _ hdotted) ?_
  by_contra hupper
  exact hne c (isWordChar_of_isUpper (eq_true_of_ne_false hupper)) rfl

/-- Nor has a digit. -/
theorem foldChar_of_isDigit {c : Char} (h : c.isDigit = true) : foldChar c = [c] := by
  refine foldChar_of_not_isUpper ?_ ?_ ?_
  · rintro rfl
    cases h
  · rintro rfl
    cases h
  · have hle : c.val ≤ '9'.val := of_decide_eq_true (Bool.and_eq_true_iff.1 h).2
    exact decide_eq_false fun hupper => absurd (UInt32.le_trans hupper.1 hle) (by decide)

/-- Capital letters have the small forms of small ones. -/
theorem foldChar_toLower (c : Char) : foldChar c.toLower = foldChar c := by
  by_cases h : c.val ≥ 'A'.val ∧ c.val ≤ 'Z'.val
  · have hcapitals :
        ∀ n < 91, 65 ≤ n → foldChar (Char.ofNat n).toLower = foldChar (Char.ofNat n) := by
      decide
    have hle : c.toNat ≤ 90 := h.2
    have := hcapitals c.toNat (Nat.lt_succ_of_le hle) h.1
    rwa [Char.ofNat_toNat] at this
  · have hsmall : c.toLower = c := dif_neg h
    rw [hsmall]

theorem foldCase_append (cs ds : List Char) : foldCase (cs ++ ds) = foldCase cs ++ foldCase ds :=
  List.flatMap_append

theorem foldCase_eq_self {cs : List Char} (h : ∀ c ∈ cs, foldChar c = [c]) : foldCase cs = cs := by
  induction cs with
  | nil => rfl
  | cons c cs ih =>
    rw [List.forall_mem_cons] at h
    rw [foldCase, List.flatMap_cons, h.1]
    exact congrArg (c :: ·) (ih h.2)

theorem foldCase_of_separators {cs : List Char} (h : ∀ c ∈ cs, IsSeparator c) :
    foldCase cs = cs :=
  foldCase_eq_self fun c hc => foldChar_of_separator (h c hc)

/-! ## Runs -/

/-- A separator ends the run before it. -/
theorem runs_append_separator {x : Char} (hx : IsSeparator x) (word cs ds : List Char) :
    runs word (cs ++ x :: ds) = runs word cs ++ runs [] ds := by
  have hword := isSeparator_iff.1 hx
  induction cs generalizing word with
  | nil => cases word <;> simp [runs, hword]
  | cons c cs ih =>
    simp only [List.cons_append, runs, ih]
    split
    · rfl
    · split <;> rfl

theorem runs_separators_append {pad : List Char} (h : ∀ c ∈ pad, IsSeparator c)
    (cs : List Char) : runs [] (pad ++ cs) = runs [] cs := by
  induction pad with
  | nil => rfl
  | cons c pad ih =>
    rw [List.forall_mem_cons] at h
    simp [runs, isSeparator_iff.1 h.1, ih h.2]

theorem runs_append_separators {pad : List Char} (h : ∀ c ∈ pad, IsSeparator c)
    (cs : List Char) : runs [] (cs ++ pad) = runs [] cs := by
  cases pad with
  | nil => rw [List.append_nil]
  | cons x pad =>
    rw [List.forall_mem_cons] at h
    have hpad : runs [] pad = [] := by simpa [runs] using runs_separators_append h.2 []
    rw [runs_append_separator h.1, hpad, List.append_nil]

/-- The characters of a run are those of the text. -/
theorem mem_of_mem_runs {word cs run : List Char} {c : Char} (hrun : run ∈ runs word cs)
    (hc : c ∈ run) : c ∈ word ∨ c ∈ cs := by
  induction cs generalizing word with
  | nil =>
    cases word with
    | nil => simp [runs] at hrun
    | cons d word =>
      simp only [runs, List.isEmpty_cons, Bool.false_eq_true, if_false, List.mem_singleton] at hrun
      rw [hrun, List.mem_reverse] at hc
      exact .inl hc
  | cons d cs ih =>
    rw [runs] at hrun
    split at hrun
    · rcases ih hrun with hmem | hmem
      · rcases List.mem_cons.1 hmem with rfl | hmem
        · exact .inr List.mem_cons_self
        · exact .inl hmem
      · exact .inr (List.mem_cons_of_mem _ hmem)
    · split at hrun
      · rcases ih hrun with hmem | hmem
        · cases hmem
        · exact .inr (List.mem_cons_of_mem _ hmem)
      · rcases List.mem_cons.1 hrun with rfl | hrun
        · exact .inl (List.mem_reverse.1 hc)
        · rcases ih hrun with hmem | hmem
          · cases hmem
          · exact .inr (List.mem_cons_of_mem _ hmem)

/-! ## Words -/

/-- Texts with a separator between them have the words of both. -/
theorem words_append_separator {x : Char} (hx : IsSeparator x) (s t : String) :
    words (s ++ String.singleton x ++ t) = words s ++ words t := by
  have hfold : foldCase (s ++ String.singleton x ++ t).toList =
      foldCase s.toList ++ x :: foldCase t.toList := by
    have hsingle : foldCase [x] = [x] := foldCase_of_separators fun c hc => by
      rwa [List.mem_singleton.1 hc]
    rw [String.toList_append, String.toList_append, String.toList_singleton, foldCase_append,
      foldCase_append, hsingle, List.append_assoc, List.singleton_append]
  rw [words, hfold, runs_append_separator hx, List.map_append]
  rfl

/-- Separators after a text add no words. -/
theorem words_append_separators {pad : String} (h : ∀ c ∈ pad.toList, IsSeparator c)
    (s : String) : words (s ++ pad) = words s := by
  rw [words, String.toList_append, foldCase_append, foldCase_of_separators h,
    runs_append_separators h]
  rfl

/-- Separators before a text add no words. -/
theorem words_separators_append {pad : String} (h : ∀ c ∈ pad.toList, IsSeparator c)
    (s : String) : words (pad ++ s) = words s := by
  rw [words, String.toList_append, foldCase_append, foldCase_of_separators h,
    runs_separators_append h]
  rfl

/-- Texts that differ in the case of ASCII letters alone have the same words. -/
theorem words_eq_of_toLower {s t : String}
    (h : s.toList.map Char.toLower = t.toList.map Char.toLower) : words s = words t := by
  have hfold : ∀ cs : List Char, foldCase (cs.map Char.toLower) = foldCase cs := fun cs => by
    simp only [foldCase, List.flatMap_map, foldChar_toLower]
  rw [words, ← hfold, h, hfold]
  rfl

/-- The characters of a word are those of the text in small letters. -/
theorem mem_foldCase_of_mem_words {s word : String} (h : word ∈ words s) :
    ∀ c ∈ word.toList, c ∈ foldCase s.toList := by
  obtain ⟨run, hrun, rfl⟩ := List.mem_map.1 h
  intro c hc
  rw [String.toList_ofList] at hc
  exact (mem_of_mem_runs hrun hc).resolve_left (List.not_mem_nil)

/-- A number is written in digits alone. -/
theorem isDigit_of_mem_words {n : Nat} {word : String} (h : word ∈ words (toString n)) :
    ∀ c ∈ word.toList, c.isDigit = true := by
  have hdigits : ∀ c ∈ (toString n).toList, c.isDigit = true := by
    rw [Nat.toString_eq_ofList_toDigits, String.toList_ofList]
    exact fun c hc => Nat.isDigit_of_mem_toDigits (by decide) (by decide) hc
  intro c hc
  have hmem := mem_foldCase_of_mem_words h c hc
  rw [foldCase_eq_self fun d hd => foldChar_of_isDigit (hdigits d hd)] at hmem
  exact hdigits c hmem

/-- To be mentioned is to occur among the words. -/
theorem mentions_eq_true_iff {ws phrase : List String} :
    mentions ws phrase = true ↔ phrase <:+: ws := by
  induction ws with
  | nil => simp [mentions, List.isPrefixOf_iff_prefix]
  | cons w ws ih =>
    rw [mentions, Bool.or_eq_true, List.isPrefixOf_iff_prefix, List.infix_cons_iff]
    exact or_congr_right ih

/-! ## Other ways to put a text in small letters -/

/-- A character of a word that is no ASCII character. -/
def IsBeyondAscii (c : Char) : Prop := isWordChar c = true ∧ 127 < c.toNat

/-- What a character may become in small letters : what folding makes of it or, where that leaves
a letter beyond ASCII as it is, any such letters. -/
inductive SmallForm (c : Char) : List Char → Prop
  | folded : SmallForm c (foldChar c)
  | beyond {form} (hc : IsBeyondAscii c) (hkept : foldChar c = [c]) (hform : form ≠ [])
      (hbeyond : ∀ d ∈ form, IsBeyondAscii d) : SmallForm c form

/-- What a text may become in small letters. -/
inductive SmallText : List Char → List Char → Prop
  | nil : SmallText [] []
  | cons {c form cs small} (hc : SmallForm c form) (hcs : SmallText cs small) :
      SmallText (c :: cs) (form ++ small)

/-- Folding is one of the ways. -/
theorem smallText_foldCase (cs : List Char) : SmallText cs (foldCase cs) := by
  induction cs with
  | nil => exact .nil
  | cons c cs ih => exact .cons .folded ih

/-- Two runs are the same, or neither is one of ASCII characters. -/
def AlikeInAscii (run run' : List Char) : Prop :=
  run = run' ∨ (∃ c ∈ run, 127 < c.toNat) ∧ ∃ c ∈ run', 127 < c.toNat

namespace AlikeInAscii

variable {run run' : List Char}

theorem cons (h : AlikeInAscii run run') (c : Char) : AlikeInAscii (c :: run) (c :: run') := by
  rcases h with rfl | ⟨⟨d, hd, hlarge⟩, d', hd', hlarge'⟩
  · exact .inl rfl
  · exact .inr ⟨⟨d, List.mem_cons_of_mem c hd, hlarge⟩, d', List.mem_cons_of_mem c hd', hlarge'⟩

theorem reverse (h : AlikeInAscii run run') : AlikeInAscii run.reverse run'.reverse := by
  simpa only [AlikeInAscii, List.mem_reverse, List.reverse_inj] using h

theorem isEmpty_eq (h : AlikeInAscii run run') : run.isEmpty = run'.isEmpty := by
  rcases h with rfl | ⟨⟨d, hd, -⟩, d', hd', -⟩
  · rfl
  · rw [List.isEmpty_eq_false_iff.2 (List.ne_nil_of_mem hd),
      List.isEmpty_eq_false_iff.2 (List.ne_nil_of_mem hd')]

/-- A word of ASCII characters is either of them or none. -/
theorem eq_iff (h : AlikeInAscii run run') {word : List Char} (hword : ∀ c ∈ word, c.toNat ≤ 127) :
    word = run ↔ word = run' := by
  rcases h with rfl | ⟨⟨d, hd, hlarge⟩, d', hd', hlarge'⟩
  · rfl
  · constructor
    · rintro rfl
      exact absurd (hword d hd) (Nat.not_le.2 hlarge)
    · rintro rfl
      exact absurd (hword d' hd') (Nat.not_le.2 hlarge')

end AlikeInAscii

theorem runs_append_of_isWordChar {cs : List Char} (h : ∀ c ∈ cs, isWordChar c = true)
    (word rest : List Char) : runs word (cs ++ rest) = runs (cs.reverse ++ word) rest := by
  induction cs generalizing word with
  | nil => rfl
  | cons c cs ih =>
    rw [List.forall_mem_cons] at h
    rw [List.cons_append, runs, if_pos h.1, ih h.2]
    simp

/-- The runs of two texts are alike if a run may be going on in both that is not the same. -/
abbrev RunsAlike (cs cs' : List Char) : Prop :=
  ∀ word word', AlikeInAscii word word' →
    List.Forall₂ AlikeInAscii (runs word cs) (runs word' cs')

theorem RunsAlike.cons {cs cs' : List Char} (h : RunsAlike cs cs') (c : Char) :
    RunsAlike (c :: cs) (c :: cs') := by
  intro word word' hword
  rw [runs, runs, hword.isEmpty_eq]
  split
  · exact h _ _ (hword.cons c)
  · split
    · exact h _ _ (.inl rfl)
    · exact .cons hword.reverse (h _ _ (.inl rfl))

/-- A small text and the folded one have words that are alike in ASCII. -/
theorem SmallText.runsAlike {cs small : List Char} (h : SmallText cs small) :
    RunsAlike small (foldCase cs) := by
  induction h with
  | nil =>
    intro word word' hword
    rw [foldCase, List.flatMap_nil, runs, runs, hword.isEmpty_eq]
    split
    · exact .nil
    · exact .cons hword.reverse .nil
  | @cons c form cs small hc _ ih =>
    rw [foldCase, List.flatMap_cons]
    cases hc with
    | folded =>
      generalize foldChar c = form
      induction form with
      | nil => exact ih
      | cons d form ihform => exact ihform.cons d
    | beyond hc hkept hform hbeyond =>
      intro word word' hword
      rw [hkept, runs_append_of_isWordChar fun d hd => (hbeyond d hd).1, List.singleton_append,
        runs, if_pos hc.1]
      obtain ⟨d, hd⟩ := List.exists_mem_of_ne_nil form hform
      refine ih _ _ (.inr ⟨⟨d, ?_, (hbeyond d hd).2⟩, c, List.mem_cons_self, hc.2⟩)
      exact List.mem_append_left _ (List.mem_reverse.2 hd)

section

variable {runs runs' : List (List Char)} {phrase : List String}

theorem prefix_iff_of_alike (h : List.Forall₂ AlikeInAscii runs runs')
    (hphrase : ∀ word ∈ phrase, ∀ c ∈ word.toList, c.toNat ≤ 127) :
    phrase <+: runs.map String.ofList ↔ phrase <+: runs'.map String.ofList := by
  induction h generalizing phrase with
  | nil => rfl
  | cons hrun _ ih =>
    cases phrase with
    | nil => simp
    | cons word phrase =>
      rw [List.forall_mem_cons] at hphrase
      rw [List.map_cons, List.map_cons, List.cons_prefix_cons, List.cons_prefix_cons,
        ih hphrase.2, ← String.toList_inj, ← String.toList_inj, String.toList_ofList,
        String.toList_ofList, hrun.eq_iff hphrase.1]

/-- Words that are alike in ASCII have the same ASCII phrases among them. -/
theorem infix_iff_of_alike (h : List.Forall₂ AlikeInAscii runs runs')
    (hphrase : ∀ word ∈ phrase, ∀ c ∈ word.toList, c.toNat ≤ 127) :
    phrase <:+: runs.map String.ofList ↔ phrase <:+: runs'.map String.ofList := by
  induction h with
  | nil => rfl
  | cons hrun hruns ih =>
    have hfirst := prefix_iff_of_alike (.cons hrun hruns) hphrase
    rw [List.map_cons, List.map_cons] at hfirst ⊢
    rw [List.infix_cons_iff, List.infix_cons_iff]
    exact or_congr hfirst ih

end

/-- Where a text mentions words of ASCII characters does not depend on how it is put in small
letters. -/
theorem SmallText.infix_words_iff {s : String} {small : List Char} (h : SmallText s.toList small)
    {phrase : List String} (hphrase : ∀ word ∈ phrase, ∀ c ∈ word.toList, c.toNat ≤ 127) :
    phrase <:+: (runs [] small).map String.ofList ↔ phrase <:+: words s :=
  infix_iff_of_alike (h.runsAlike [] [] (.inl rfl)) hphrase

end Resilience.Text
