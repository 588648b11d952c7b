import Resilience.Document.Lexeme
import Resilience.Proofs.Number.Digits

/-!
# The lexemes of a piece of text

Where a piece of text ends matters for numbers alone, which go on as far as they can. What follows a
piece must not go on with a number (`Ends`), and then the lexemes of the whole are those of the
piece and those of what follows (`Spells`). Words are such pieces, and so is any text that is one
number by itself, with blanks around it or not (`spells_of_lex`).
-/

namespace Resilience

namespace Document

/-! ## One lexeme at a time -/

section

variable {c : Char} {cs rest : List Char}

@[simp] theorem lex_nil : lex [] = [] := by rw [lex]

theorem lex_of_space (h : isSpace c = true) : lex (c :: cs) = lex cs := by
  rw [lex, if_pos h]

theorem isSpace_of_mark {l : Lexeme} (h : mark? c = some l) : isSpace c = false := by
  unfold mark? at h
  split at h <;> first | rfl | cases h

theorem lex_of_mark {l : Lexeme} (h : mark? c = some l) : lex (c :: cs) = l :: lex cs := by
  rw [lex, if_neg (by simp [isSpace_of_mark h]), h]

theorem not_mark_of_word {word : List Char} {l : Lexeme} (h : word? c = some (word, l)) :
    isSpace c = false ∧ mark? c = none := by
  unfold word? at h
  split at h <;> first | exact ⟨rfl, rfl⟩ | cases h

theorem lex_of_word {word : List Char} {l : Lexeme} (h : word? c = some (word, l))
    (hrest : expect word cs = .ok rest) : lex (c :: cs) = l :: lex rest := by
  obtain ⟨hspace, hmark⟩ := not_mark_of_word h
  rw [lex, if_neg (by simp [hspace]), hmark, h]
  simp only
  split <;> rename_i hexpect <;> rw [hrest] at hexpect <;> cases hexpect
  rfl

theorem lex_of_quote {ps : List Piece} (h : scan cs = (ps, .closed rest)) :
    lex ('"' :: cs) = .ofPieces ps :: lex rest := by
  have hmark : mark? '"' = none := rfl
  have hword : word? '"' = none := rfl
  rw [lex, if_neg (by decide), hmark]
  simp only [hword, if_true]
  split <;> rename_i hscan <;> rw [h] at hscan <;> cases hscan
  rfl

theorem not_mark_of_number (h : c = '-' ∨ Number.isDigit c = true) :
    isSpace c = false ∧ mark? c = none ∧ word? c = none ∧ c ≠ '"' := by
  rcases h with rfl | h
  · decide
  · have hne : ∀ d : Char, Number.isDigit d = false → c ≠ d := fun _ => Number.ne_of_isDigit h
    refine ⟨?_, ?_, ?_, hne _ (by decide)⟩
    · simp [isSpace, hne ' ' (by decide), hne '\t' (by decide), hne '\n' (by decide),
        hne '\r' (by decide)]
    · unfold mark?
      split <;> first | rfl | exact absurd rfl (hne _ (by decide))
    · unfold word?
      split <;> first | rfl | exact absurd rfl (hne _ (by decide))

theorem lex_of_number (hc : c = '-' ∨ Number.isDigit c = true) {n : Number.Numeral}
    {integral : Bool} (h : scanNumber (c :: cs) = .read n integral rest) :
    lex (c :: cs) = .ofNumeral integral n :: lex rest := by
  obtain ⟨hspace, hmark, hword, hquote⟩ := not_mark_of_number hc
  rw [lex, if_neg (by simp [hspace]), hmark]
  simp only [hword, if_neg hquote, if_pos hc]
  split <;> rename_i hscan <;> rw [h] at hscan <;> cases hscan
  rfl

end

/-! ## Where numbers end -/

/-- Whether a number may go on with `c`. -/
def goesOn (c : Char) : Bool := Number.isDigit c || c = '.' || c = 'e' || c = 'E'

/-- The text is at its end, or starts with a character that no number goes on with. -/
def Ends (r : List Char) : Prop := ∀ c ∈ r.head?, goesOn c = false

theorem ends_nil : Ends [] := nofun

theorem ends_cons {c : Char} (h : goesOn c = false) (r : List Char) : Ends (c :: r) := by
  rintro _ ⟨⟩
  exact h

section

variable {r : List Char}

theorem Ends.not_goesOn {c : Char} (h : Ends (c :: r)) :
    Number.isDigit c = false ∧ c ≠ '.' ∧ c ≠ 'e' ∧ c ≠ 'E' := by
  simpa [goesOn, and_assoc] using h c rfl

/-- Digits are read to their end, whatever follows that does not go on with them. -/
theorem takeDigits_append (cs : List Char) (h : Ends r) :
    Number.takeDigits (cs ++ r) = ((Number.takeDigits cs).1, (Number.takeDigits cs).2 ++ r) := by
  have hsplit : (cs ++ r).takeWhile Number.isDigit = cs.takeWhile Number.isDigit ∧
      (cs ++ r).dropWhile Number.isDigit = cs.dropWhile Number.isDigit ++ r := by
    induction cs with
    | nil => cases r with
      | nil => exact ⟨rfl, rfl⟩
      | cons c r => simp [h.not_goesOn.1]
    | cons c cs ih => by_cases hc : Number.isDigit c = true <;> simp [hc, ih]
  simp only [Number.takeDigits, hsplit.1, hsplit.2]

variable {cs rest : List Char}

theorem scanWhole_append {ds : List Nat} (h : scanWhole cs = .ok (ds, rest)) (hr : Ends r) :
    scanWhole (cs ++ r) = .ok (ds, rest ++ r) := by
  unfold scanWhole at h ⊢
  rw [takeDigits_append cs hr]
  generalize Number.takeDigits cs = taken at h
  obtain ⟨_ | ⟨d, ds'⟩, rest'⟩ := taken
  · cases h
  · simp only at h ⊢
    split at h
    · cases h
    · rename_i hzero
      cases h
      rw [if_neg hzero]

theorem scanFraction_of_ne (h : ∀ c ∈ cs.head?, c ≠ '.') : scanFraction cs = .ok ([], cs) := by
  unfold scanFraction
  split
  · exact absurd rfl (h '.' rfl)
  · rfl

theorem scanFraction_append {ds : List Nat} (h : scanFraction cs = .ok (ds, rest)) (hr : Ends r) :
    scanFraction (cs ++ r) = .ok (ds, rest ++ r) := by
  cases cs with
  | nil =>
    cases h
    refine scanFraction_of_ne fun c hc => ?_
    cases r with
    | nil => cases hc
    | cons d r =>
      cases hc
      exact hr.not_goesOn.2.1
  | cons c cs =>
    by_cases hc : c = '.'
    · subst hc
      simp only [scanFraction, List.cons_append] at h ⊢
      rw [takeDigits_append cs hr]
      generalize Number.takeDigits cs = taken at h
      obtain ⟨_ | ⟨d, ds'⟩, rest'⟩ := taken <;> cases h
      rfl
    · have hne : ∀ xs : List Char, ∀ d ∈ (c :: xs).head?, d ≠ '.' := by
        rintro _ _ ⟨⟩
        exact hc
      rw [scanFraction_of_ne (hne _)] at h
      cases h
      exact scanFraction_of_ne (hne _)

theorem readExponent_of_ne (h : ∀ c ∈ cs.head?, c ≠ 'e' ∧ c ≠ 'E') :
    Number.readExponent cs = some (0, cs) := by
  cases cs with
  | nil => rfl
  | cons c cs =>
    obtain ⟨he, hE⟩ := h c rfl
    simp [Number.readExponent, he, hE]

theorem readExponent_append {e : Int} (h : Number.readExponent cs = some (e, rest)) (hr : Ends r) :
    Number.readExponent (cs ++ r) = some (e, rest ++ r) := by
  cases cs with
  | nil =>
    cases h
    refine readExponent_of_ne fun c hc => ?_
    cases r with
    | nil => cases hc
    | cons d r =>
      cases hc
      exact hr.not_goesOn.2.2
  | cons c cs =>
    by_cases hc : c = 'e' ∨ c = 'E'
    · -- Digits follow the mark and its sign, so that the text does not end before them.
      have hsign : Number.takeSign (cs ++ r) =
          ((Number.takeSign cs).1, (Number.takeSign cs).2 ++ r) := by
        cases cs with
        | nil => simp [Number.readExponent, hc, Number.takeSign, Number.takeDigits] at h
        | cons d cs =>
          unfold Number.takeSign
          split <;> simp_all
      simp only [Number.readExponent, List.cons_append, if_pos hc] at h ⊢
      rw [hsign]
      simp only
      rw [takeDigits_append _ hr]
      generalize Number.takeDigits (Number.takeSign cs).2 = taken at h
      obtain ⟨_ | ⟨d, ds⟩, rest'⟩ := taken <;> cases h
      rfl
    · have hne : ∀ xs : List Char, ∀ d ∈ (c :: xs).head?, d ≠ 'e' ∧ d ≠ 'E' := by
        rintro _ _ ⟨⟩
        exact not_or.1 hc
      rw [readExponent_of_ne (hne _)] at h
      cases h
      exact readExponent_of_ne (hne _)

theorem scanExponent_append {e : Int} (h : scanExponent cs = .ok (e, rest)) (hr : Ends r) :
    scanExponent (cs ++ r) = .ok (e, rest ++ r) := by
  unfold scanExponent at h ⊢
  split at h
  · rename_i hread
    cases h
    rw [readExponent_append hread hr]
  · cases h

theorem scanMagnitude_append {negative integral : Bool} {n : Number.Numeral}
    (h : scanMagnitude negative cs = .read n integral rest) (hr : Ends r) :
    scanMagnitude negative (cs ++ r) = .read n integral (rest ++ r) := by
  unfold scanMagnitude at h
  split at h
  · cases h
  · rename_i whole afterWhole hwhole
    split at h
    · cases h
    · rename_i fraction afterFraction hfraction
      split at h
      · cases h
      · rename_i hexponent
        cases h
        have hintegral : ((rest ++ r).length == (afterWhole ++ r).length) =
            (rest.length == afterWhole.length) := by
          rw [Bool.eq_iff_iff]
          simp
        simp only [scanMagnitude, scanWhole_append hwhole hr, scanFraction_append hfraction hr,
          scanExponent_append hexponent hr, hintegral]

theorem scanNumber_of_ne {c : Char} (hc : c ≠ '-') (cs : List Char) :
    scanNumber (c :: cs) = scanMagnitude false (c :: cs) := by
  rw [scanNumber]
  rintro _ ⟨⟩
  exact hc rfl

/-- A number is read to its end, whatever follows that does not go on with it. -/
theorem scanNumber_append {integral : Bool} {n : Number.Numeral}
    (h : scanNumber cs = .read n integral rest) (hr : Ends r) :
    scanNumber (cs ++ r) = .read n integral (rest ++ r) := by
  cases cs with
  | nil => cases h
  | cons c cs =>
    by_cases hc : c = '-'
    · subst hc
      exact scanMagnitude_append h hr
    · rw [scanNumber_of_ne hc] at h
      rw [List.cons_append, scanNumber_of_ne hc]
      exact scanMagnitude_append h hr

end

/-! ## Pieces of text -/

/-- The piece of text `t` has the lexemes `ls`, if what follows does not go on with a number. -/
def Spells (t : List Char) (ls : List Lexeme) : Prop := ∀ r, Ends r → lex (t ++ r) = ls ++ lex r

section

variable {t : List Char} {c : Char} {l : Lexeme}

theorem spells_word {word : List Char} (hc : word? c = some (word, l)) :
    Spells (c :: word) [l] := by
  have hexpect : ∀ r, expect word (word ++ r) = .ok r := by
    intro r
    clear hc
    induction word with
    | nil => rfl
    | cons w word ih => simpa [expect] using ih
  intro r _
  exact lex_of_word hc (hexpect r)

theorem lex_append_of_nil (h : lex t = []) (r : List Char) : lex (t ++ r) = lex r := by
  fun_induction lex t with
  | case1 => rfl
  | case2 c cs hspace ih =>
    rw [List.cons_append, lex_of_space hspace]
    exact ih h
  | _ => cases h

theorem mark_ne_number (h : mark? c = some l) (q : Quantity) : l ≠ .number q := by
  unfold mark? at h
  split at h <;> cases h <;> nofun

theorem word_ne_number {word : List Char} (h : word? c = some (word, l)) (q : Quantity) :
    l ≠ .number q := by
  unfold word? at h
  split at h <;> cases h <;> nofun

theorem ofPieces_ne_number (ps : List Piece) (q : Quantity) : Lexeme.ofPieces ps ≠ .number q := by
  unfold Lexeme.ofPieces
  split <;> nofun

theorem ofBroken_ne_number (ps : List Piece) (f : Fault) (q : Quantity) :
    Lexeme.ofBroken ps f ≠ .number q := by
  unfold Lexeme.ofBroken
  split <;> nofun

/-- A text that is one number, with blanks around it or not, is so among others. -/
theorem spells_of_lex {q : Quantity} (h : lex t = [.number q]) : Spells t [.number q] := by
  fun_induction lex t with
  | case2 c cs hspace ih =>
    intro r hr
    rw [List.cons_append, lex_of_space hspace]
    exact ih h r hr
  | case3 c cs hspace l hmark => exact absurd (List.cons.inj h).1 (mark_ne_number hmark q)
  | case4 c cs hspace hmark word l hword =>
    exact absurd (List.cons.inj h).1 (word_ne_number hword q)
  | case6 cs ps => exact absurd (List.cons.inj h).1 (ofPieces_ne_number ps q)
  | case7 cs ps f => exact absurd (List.cons.inj h).1 (ofBroken_ne_number ps f q)
  | case8 c cs _ _ _ _ hc n integral rest hscan =>
    obtain ⟨hnumber, hrest⟩ := List.cons.inj h
    intro r hr
    have hscan' : scanNumber (c :: (cs ++ r)) = .read n integral (rest ++ r) :=
      scanNumber_append hscan hr
    rw [List.cons_append, lex_of_number hc hscan', hnumber, lex_append_of_nil hrest]
    rfl
  | case1 | case5 | case9 | case10 => cases h

end

/-! ## Blanks -/

/-- Nothing but blanks. -/
def Blank (t : String) : Prop := ∀ c ∈ t.toList, isSpace c = true

theorem blank_empty : Blank "" := by simp [Blank]

section

variable {a b : String} {t r : List Char}

theorem Blank.lex_append (h : Blank a) (r : List Char) : lex (a.toList ++ r) = lex r := by
  unfold Blank at h
  generalize a.toList = cs at h
  induction cs with
  | nil => rfl
  | cons c cs ih =>
    rw [List.cons_append, lex_of_space (h c List.mem_cons_self)]
    exact ih fun c hc => h c (List.mem_cons_of_mem _ hc)

theorem not_goesOn_of_space {c : Char} (h : isSpace c = true) : goesOn c = false := by
  simp only [isSpace, Bool.or_eq_true, decide_eq_true_eq] at h
  rcases h with ((rfl | rfl) | rfl) | rfl <;> rfl

theorem Blank.ends_append (h : Blank a) (hr : Ends r) : Ends (a.toList ++ r) := by
  unfold Blank at h
  generalize a.toList = cs at h
  cases cs with
  | nil => exact hr
  | cons c cs => exact ends_cons (not_goesOn_of_space (h c List.mem_cons_self)) _

/-- A piece of text spells the same with blanks around it. -/
theorem Spells.padded {ls : List Lexeme} (ha : Blank a) (h : Spells t ls) (hb : Blank b) :
    Spells (a.toList ++ t ++ b.toList) ls := by
  intro r hr
  rw [List.append_assoc, List.append_assoc, ha.lex_append, h _ (hb.ends_append hr), hb.lex_append]

end

end Document

end Resilience
