import Resilience.Proofs.Document.Rereading

/-!
# Well-formed texts

The grammar of documents, told without the reader : words, numbers, quoted texts, arrays and
objects, with blanks around any of them (`WellFormed`). A number may be too large for a float, and a
quoted text may hold a lone surrogate, be it a value or the name of a member. The grammar has no
objection.

A well-formed text is read as a document wherever a value may stand, and a reader that passes over
it meets no fault, however deep it goes (`WellFormed.passable`).
-/

namespace Resilience

namespace Document

/-! ## Numbers -/

/-- One digit or more. -/
def Digits (cs : List Char) : Prop := cs ≠ [] ∧ ∀ c ∈ cs, Number.isDigit c = true

/-- The parts of a number as it is written : a minus sign or none, digits that start with a zero
only if it is alone, perhaps a point with digits, and perhaps an exponent. -/
structure NumberParts (sign whole fraction exponent : List Char) : Prop where
  sign_cases : sign = [] ∨ sign = ['-']
  digits : Digits whole
  leading : '0' ∈ whole.head? → whole = ['0']
  fraction_cases : fraction = [] ∨ ∃ ds, Digits ds ∧ fraction = '.' :: ds
  exponent_cases : exponent = [] ∨ ∃ mark sign ds, (mark = 'e' ∨ mark = 'E') ∧
    (sign = [] ∨ sign = ['+'] ∨ sign = ['-']) ∧ Digits ds ∧ exponent = mark :: (sign ++ ds)

/-- The text of a number. -/
def NumberText (t : String) : Prop :=
  ∃ sign whole fraction exponent, NumberParts sign whole fraction exponent ∧
    t.toList = sign ++ (whole ++ (fraction ++ exponent))

section

variable {ds r : List Char}

theorem Digits.exists_cons (h : Digits ds) :
    ∃ c cs, Number.isDigit c = true ∧ ds = c :: cs := by
  obtain ⟨hne, hdigits⟩ := h
  cases ds with
  | nil => exact absurd rfl hne
  | cons c cs => exact ⟨c, cs, hdigits c List.mem_cons_self, rfl⟩

theorem takeDigits_of_digits (h : Digits ds) (hr : ∀ c ∈ r.head?, Number.isDigit c = false) :
    ∃ n ns, Number.takeDigits (ds ++ r) = (n :: ns, r) ∧
      ((∀ c ∈ ds.head?, c ≠ '0') → n ≠ 0) ∧ ns.length + 1 = ds.length := by
  have htake := Number.takeDigits_of_digits h.2 hr
  obtain ⟨c, cs, hdigit, rfl⟩ := h.exists_cons
  refine ⟨_, _, htake, fun hc hzero => ?_, by simp⟩
  exact hc c rfl (Number.eq_zero_of_digit hdigit hzero)

theorem scanWhole_of_digits (h : Digits ds) (hleading : '0' ∈ ds.head? → ds = ['0'])
    (hr : ∀ c ∈ r.head?, Number.isDigit c = false) : ∃ ns, scanWhole (ds ++ r) = .ok (ns, r) := by
  obtain ⟨n, ns, htake, hzero, hlength⟩ := takeDigits_of_digits h hr
  have hok : ¬(n = 0 ∧ ns ≠ []) := by
    rintro ⟨rfl, hns⟩
    refine hzero (fun c hc heq => hns ?_) rfl
    rw [hleading (heq ▸ hc)] at hlength
    exact List.eq_nil_of_length_eq_zero (Nat.succ.inj hlength)
  exact ⟨n :: ns, by simp only [scanWhole, htake, if_neg hok]⟩

variable {sign whole fraction exponent : List Char}

theorem NumberParts.scanExponent (h : NumberParts sign whole fraction exponent) :
    ∃ e, scanExponent exponent = .ok (e, []) := by
  obtain hnil | ⟨mark, sign, ds, hmark, hsign, hds, rfl⟩ := h.exponent_cases
  · exact ⟨0, by rw [hnil]; rfl⟩
  · obtain ⟨n, ns, htake, -⟩ := takeDigits_of_digits (r := []) hds nofun
    rw [List.append_nil] at htake
    have hafter : (Number.takeSign (sign ++ ds)).2 = ds := by
      obtain rfl | rfl | rfl := hsign
      · obtain ⟨c, cs, hc, rfl⟩ := hds.exists_cons
        exact congrArg Prod.snd (Number.takeSign_of_digit hc cs)
      · rfl
      · rfl
    rw [Document.scanExponent, Number.readExponent, if_pos hmark, hafter, htake]
    exact ⟨_, rfl⟩

/-- What follows the digits before the point is no digit. -/
theorem NumberParts.stop (h : NumberParts sign whole fraction exponent) :
    (∀ c ∈ (fraction ++ exponent).head?, Number.isDigit c = false) ∧
      (∀ c ∈ exponent.head?, Number.isDigit c = false ∧ c ≠ '.') := by
  have hexponent : ∀ c ∈ exponent.head?, Number.isDigit c = false ∧ c ≠ '.' := by
    obtain hnil | ⟨mark, sign, ds, rfl | rfl, -, -, hexponent⟩ := h.exponent_cases
    · simp [hnil]
    · rw [hexponent]
      rintro _ ⟨⟩
      decide
    · rw [hexponent]
      rintro _ ⟨⟩
      decide
  refine ⟨?_, hexponent⟩
  obtain hnil | ⟨ds, -, hfraction⟩ := h.fraction_cases
  · rw [hnil]
    exact fun c hc => (hexponent c hc).1
  · rw [hfraction]
    rintro _ ⟨⟩
    decide

theorem NumberParts.scanFraction (h : NumberParts sign whole fraction exponent) :
    ∃ ns, scanFraction (fraction ++ exponent) = .ok (ns, exponent) := by
  obtain ⟨-, hexponent⟩ := h.stop
  obtain hnil | ⟨ds, hds, hfraction⟩ := h.fraction_cases
  · rw [hnil]
    exact ⟨[], scanFraction_of_ne fun c hc => (hexponent c hc).2⟩
  · obtain ⟨n, ns, htake, -⟩ := takeDigits_of_digits hds fun c hc => (hexponent c hc).1
    exact ⟨n :: ns, by rw [hfraction, List.cons_append, Document.scanFraction, htake]⟩

theorem NumberParts.scanMagnitude (h : NumberParts sign whole fraction exponent) (negative : Bool) :
    ∃ n integral, scanMagnitude negative (whole ++ (fraction ++ exponent)) =
      .read n integral [] := by
  obtain ⟨ws, hwhole⟩ := scanWhole_of_digits h.digits h.leading h.stop.1
  obtain ⟨fs, hfraction⟩ := h.scanFraction
  obtain ⟨e, hexponent⟩ := h.scanExponent
  simp only [Document.scanMagnitude, hwhole, hfraction, hexponent]
  exact ⟨_, _, rfl⟩

/-- A number is scanned to its end. -/
theorem NumberText.scan {t : String} (h : NumberText t) : ∃ c cs n integral,
    t.toList = c :: cs ∧ (c = '-' ∨ Number.isDigit c = true) ∧
      scanNumber (c :: cs) = .read n integral [] := by
  obtain ⟨sign, whole, fraction, exponent, hparts, ht⟩ := h
  rw [ht]
  obtain rfl | rfl := hparts.sign_cases
  · obtain ⟨n, integral, hscan⟩ := hparts.scanMagnitude false
    obtain ⟨c, cs, hc, rfl⟩ := hparts.digits.exists_cons
    refine ⟨c, cs ++ (fraction ++ exponent), n, integral, rfl, .inr hc, ?_⟩
    rw [scanNumber_of_ne (Number.ne_of_isDigit hc rfl)]
    exact hscan
  · obtain ⟨n, integral, hscan⟩ := hparts.scanMagnitude true
    exact ⟨'-', _, n, integral, rfl, .inl rfl, hscan⟩

theorem NumberText.spells {t : String} (h : NumberText t) :
    ∃ n integral, Spells t.toList [.ofNumeral integral n] := by
  obtain ⟨c, cs, n, integral, ht, hc, hscan⟩ := h.scan
  refine ⟨n, integral, fun r hr => ?_⟩
  have hwhole : scanNumber (c :: (cs ++ r)) = .read n integral r := scanNumber_append hscan hr
  rw [ht, List.cons_append, lex_of_number hc hwhole]
  rfl

end

/-! ## Quoted texts -/

/-- Whether a character stands for itself between quotes. -/
def isPlain (c : Char) : Bool := !(c.val < 0x20) && c != '"' && c != '\\'

/-- The characters between two quotes, and the parts of the text they are. -/
inductive Between : List Piece → List Char → Prop
  | nil : Between [] []
  | char {c : Char} {ps : List Piece} {cs : List Char} (hc : isPlain c = true) (h : Between ps cs) :
      Between (.char c :: ps) (c :: cs)
  | escape {c x : Char} {ps : List Piece} {cs : List Char} (hc : shortEscape? c = some x)
      (h : Between ps cs) : Between (.char x :: ps) ('\\' :: c :: cs)
  | unit {a b c d : Char} {n : Nat} {ps : List Piece} {cs : List Char}
      (hn : hexWord? a b c d = some n) (h : Between ps cs) :
      Between (.word n :: ps) ('\\' :: 'u' :: a :: b :: c :: d :: cs)

/-- A quoted text of these parts, with blanks around it or not. -/
def Quotes (ps : List Piece) (t : String) : Prop :=
  ∃ a b cs, Blank a ∧ Blank b ∧ Between ps cs ∧ t = a ++ "\"" ++ String.ofList cs ++ "\"" ++ b

/-- The quoted text `t` stands for the characters of `s`. -/
def Names (t s : String) : Prop := ∃ ps, Quotes ps t ∧ join none ps = .ok s.toList

theorem Between.scan {ps : List Piece} {cs : List Char} (h : Between ps cs) (r : List Char) :
    scan (cs ++ '"' :: r) = (ps, .closed r) := by
  induction h with
  | nil => simp [Document.scan]
  | @char c ps cs hc h ih =>
    simp only [isPlain, Bool.and_eq_true, Bool.not_eq_true', decide_eq_false_iff_not,
      bne_iff_ne] at hc
    obtain ⟨⟨hcontrol, hquote⟩, hslash⟩ := hc
    rw [List.cons_append, Document.scan.eq_def]
    split <;> simp_all
  | @escape c x ps cs hc h ih =>
    have hu : c ≠ 'u' := by
      rintro rfl
      cases hc
    rw [List.cons_append, List.cons_append, Document.scan]
    · simp only [hc, ih]
    · exact fun _ _ _ _ _ heq _ => hu heq
    · exact hu
  | unit hn h ih => simp [Document.scan, hn, ih]

theorem Quotes.spells {ps : List Piece} {t : String} (h : Quotes ps t) :
    Spells t.toList [.ofPieces ps] := by
  obtain ⟨a, b, cs, ha, hb, hcs, rfl⟩ := h
  have hquoted : Spells ('"' :: (cs ++ ['"'])) [.ofPieces ps] := by
    intro r _
    have htext : '"' :: (cs ++ ['"']) ++ r = '"' :: (cs ++ '"' :: r) := by simp
    rw [htext, lex_of_quote (hcs.scan r)]
    rfl
  simpa using Spells.padded ha hquoted hb

/-- A text in which nothing needs an escape is named by itself between quotes. -/
theorem names_of_plain (s : String) (h : s.toList.all isPlain = true) :
    Names ("\"" ++ s ++ "\"") s := by
  have hbetween : ∀ cs : List Char, cs.all isPlain = true →
      Between (cs.map .char) cs ∧ join none (cs.map .char) = .ok cs := by
    intro cs hcs
    induction cs with
    | nil => exact ⟨.nil, rfl⟩
    | cons c cs ih =>
      rw [List.all_cons, Bool.and_eq_true] at hcs
      obtain ⟨hrest, hjoin⟩ := ih hcs.2
      refine ⟨.char hcs.1 hrest, ?_⟩
      rw [List.map_cons, join, hjoin]
      rfl
  obtain ⟨hcs, hjoin⟩ := hbetween _ h
  exact ⟨_, ⟨"", "", _, blank_empty, blank_empty, hcs, by simp⟩, hjoin⟩

/-! ## Texts -/

/-- The texts of documents. -/
inductive WellFormed : String → Prop
  | word {t : String} (h : t = "null" ∨ t = "true" ∨ t = "false") : WellFormed t
  | number {t : String} (h : NumberText t) : WellFormed t
  | text {ps : List Piece} {t : String} (h : Quotes ps t) : WellFormed t
  | array {gap : String} {ts : List String} (hgap : Blank gap) (h : ∀ t ∈ ts, WellFormed t) :
      WellFormed (arrayText gap ts)
  | object {gap : String} {es : List Entry} (hgap : Blank gap)
      (hkeys : ∀ e ∈ es, ∃ ps, Quotes ps e.key) (h : ∀ e ∈ es, WellFormed e.value) :
      WellFormed (objectText gap es)
  | padded {a t b : String} (ha : Blank a) (h : WellFormed t) (hb : Blank b) :
      WellFormed (a ++ t ++ b)

/-- A digit that is not zero, and digits after it. -/
theorem wellFormed_of_digits {c : Char} (cs : List Char) (hc : c ≠ '0')
    (h : (c :: cs).all Number.isDigit = true) : WellFormed (String.ofList (c :: cs)) := by
  have hdigits : Digits (c :: cs) := ⟨List.cons_ne_nil _ _, List.all_eq_true.1 h⟩
  have hleading : '0' ∈ (c :: cs).head? → c :: cs = ['0'] := by
    rintro ⟨⟩
    exact absurd rfl hc
  exact .number ⟨[], c :: cs, [], [], ⟨.inl rfl, hdigits, hleading, .inl rfl, .inl rfl⟩, by simp⟩

/-- The document that a text is read as, whatever follows that document. -/
def meaning (t : String) : Document := (read t).1

/-- The text is read as a document wherever a value may stand, and passed over without a fault. -/
structure Passable (t : String) : Prop where
  reads : Reads t.toList (meaning t)
  pass : passFault? (meaning t) = none

/-- A text that is read as a document means that document. -/
theorem Reads.meaning_eq {t : String} {d : Document} (h : Reads t.toList d) : meaning t = d := by
  rw [meaning, h.read_eq]

theorem Reads.passable {t : String} {d : Document} (h : Reads t.toList d)
    (hpass : passFault? d = none) : Passable t := by
  obtain rfl := h.meaning_eq
  exact ⟨h, hpass⟩

/-- What stands for the key whose text is `t`. -/
def Key.ofText (t : String) : Key :=
  match meaning t with
  | .text s => .name s
  | _ => .garbled

/-- The member that an entry is read as. -/
def Entry.member (e : Entry) : Key × Document := (.ofText e.key, meaning e.value)

section

variable {ps : List Piece} {t : String} {f : Fault} {s : String}

/-- A quoted text without a lone surrogate is read as the text it spells. -/
theorem Quotes.reads_of_join (h : Quotes ps t) (hjoin : join none ps = .ok s.toList) :
    Reads t.toList (.text s) := by
  have hspells := h.spells
  rw [Lexeme.ofPieces, hjoin] at hspells
  simpa using hspells.reads fun _ => rfl

theorem Quotes.reads_of_surrogate (h : Quotes ps t) (hjoin : join none ps = .error f) :
    Reads t.toList (.flawed (some .text) ⟨f, none⟩) := by
  have hspells := h.spells
  rw [Lexeme.ofPieces, hjoin] at hspells
  exact hspells.reads fun _ => rfl

theorem Names.key_eq (h : Names t s) : Key.ofText t = .name s := by
  obtain ⟨ps, hquotes, hjoin⟩ := h
  rw [Key.ofText, (hquotes.reads_of_join hjoin).meaning_eq]

theorem Quotes.readsKey (h : Quotes ps t) : ReadsKey t.toList (.ofText t) := by
  have hspells := h.spells
  cases hjoin : join none ps with
  | ok cs =>
    rw [Key.ofText, (h.reads_of_join (s := String.ofList cs) (by simpa using hjoin)).meaning_eq]
    rw [Lexeme.ofPieces, hjoin] at hspells
    exact hspells.readsKey_text
  | error f =>
    rw [Key.ofText, (h.reads_of_surrogate hjoin).meaning_eq]
    rw [Lexeme.ofPieces, hjoin] at hspells
    refine hspells.readsKey ?_
    rintro _ (rfl | rfl) _ _ <;> rfl

/-- A reader that does not want a text passes over it, whatever it spells. -/
theorem Quotes.passable (h : Quotes ps t) : Passable t := by
  cases hjoin : join none ps with
  | ok cs => exact (h.reads_of_join (s := String.ofList cs) (by simpa using hjoin)).passable rfl
  | error f => exact (h.reads_of_surrogate hjoin).passable rfl

theorem NumberText.passable (h : NumberText t) : Passable t := by
  obtain ⟨n, integral, hspells⟩ := h.spells
  unfold Lexeme.ofNumeral at hspells
  split at hspells
  · exact (hspells.reads fun _ => rfl).passable rfl
  · exact (hspells.reads fun _ => rfl).passable rfl

end

theorem Reads.padded {a b : String} {t : List Char} {d : Document} (ha : Blank a) (h : Reads t d)
    (hb : Blank b) : Reads (a.toList ++ t ++ b.toList) d := by
  intro r hr stack
  rw [List.append_assoc, List.append_assoc, ha.lex_append, h _ (hb.ends_append hr), hb.lex_append]

theorem passItems?_eq_none {ds : List Document} (h : ∀ d ∈ ds, passFault? d = none) :
    passItems? ds = none := by
  induction ds with
  | nil => rfl
  | cons d ds ih =>
    rw [passItems?, h d List.mem_cons_self, ih fun d hd => h d (List.mem_cons_of_mem _ hd)]
    rfl

theorem passMembers?_eq_none {es : List Entry} (h : ∀ e ∈ es, passFault? (meaning e.value) = none) :
    passMembers? (es.map Entry.member) = none := by
  induction es with
  | nil => rfl
  | cons e es ih =>
    have hkey : Key.ofText e.key ≠ .misplaced := by
      unfold Key.ofText
      split <;> nofun
    rw [List.map_cons, Entry.member, passMembers?, h e List.mem_cons_self,
      ih fun e he => h e (List.mem_cons_of_mem _ he)]
    · rfl
    · exact hkey

/-- A well-formed text is a document, and may be passed over. -/
theorem WellFormed.passable {t : String} (h : WellFormed t) : Passable t := by
  induction h with
  | word h =>
    obtain rfl | rfl | rfl := h
    · exact reads_null.passable rfl
    · exact (reads_bool true).passable rfl
    · exact (reads_bool false).passable rfl
  | number h => exact h.passable
  | text h => exact h.passable
  | @array gap ts hgap h ih =>
    have hreads := reads_arrayText hgap fun t ht => (ih t ht).reads
    rw [List.map_id'] at hreads
    refine hreads.passable ?_
    rw [passFault?, passItems?_eq_none]
    · rfl
    · simpa using fun t ht => (ih t ht).pass
  | @object gap es hgap hkeys h ih =>
    have hmembers : ∀ e ∈ es, ReadsMember e e.member := by
      intro e he
      obtain ⟨ps, hquotes⟩ := hkeys e he
      exact ⟨hquotes.readsKey, (ih e he).reads⟩
    have hreads := reads_objectText hgap hmembers
    rw [List.map_id'] at hreads
    refine hreads.passable ?_
    rw [passFault?, passMembers?_eq_none fun e he => (ih e he).pass]
    rfl
  | @padded a t b ha h hb ih =>
    refine Reads.passable (d := meaning t) ?_ ih.pass
    simpa using Reads.padded ha ih.reads hb

end Document

end Resilience
