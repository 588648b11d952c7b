import Resilience.Document.Printer
import Resilience.Document.Reader
import Resilience.Proofs.Document.Lexing
import Resilience.Proofs.Number.Digits

/-!
# Reading what was written

A piece of text is a document wherever a value may stand (`Reads`), if reading it there does to
everything around it what putting in the document does. Quoted texts, whole numbers and the three
words are, and objects and arrays are if their members and items are.

A number in some other form, a float, is taken on the strength of its text alone : a text that is
read as a number when it stands by itself has that number for its only lexeme (`lex_of_read`). So
every document whose numbers are read back from their texts is read back from its own
(`read_write`).
-/

namespace Resilience

namespace Document

/-! ## Quoted texts -/

theorem hexWord?_hexByte : ∀ n < 0x20,
    hexWord? '0' '0' (Nat.digitChar (n / 16)) (Nat.digitChar (n % 16)) = some n := by
  decide

/-- The part of a quoted text that a written character is. -/
theorem scan_quoteChar (c : Char) : ∃ p,
    (∀ r, scan ((quoteChar c).toList ++ r) = (p :: (scan r).1, (scan r).2)) ∧
      ∀ ps cs, join none ps = .ok cs → join none (p :: ps) = .ok (c :: cs) := by
  have hchar : ∀ ps cs, join none ps = .ok cs → join none (.char c :: ps) = .ok (c :: cs) := by
    intro ps cs h
    rw [join, h]
    rfl
  unfold quoteChar
  split
  case h_8 hquote hslash _ _ _ _ _ =>
    split
    · rename_i hcontrol
      have hlt : c.toNat < 0x20 := UInt32.lt_iff_toNat_lt.1 hcontrol
      refine ⟨.word c.toNat, fun r => ?_, fun ps cs h => ?_⟩
      · have htext : ("\\u00" ++ hexByte c.toNat).toList ++ r = '\\' :: 'u' :: '0' :: '0' ::
            Nat.digitChar (c.toNat / 16) :: Nat.digitChar (c.toNat % 16) :: r := by
          simp [hexByte]
        rw [htext, scan, hexWord?_hexByte _ hlt]
      · have htrail : isTrail c.toNat = false := by
          simp [isTrail]
          omega
        have hlead : isLead c.toNat = false := by
          simp [isLead]
          omega
        rw [join.eq_def]
        simp [htrail, hlead, h, Except.map]
    · rename_i hcontrol
      refine ⟨.char c, fun r => ?_, hchar⟩
      have htext : c.toString.toList ++ r = c :: r := by simp
      rw [htext, scan.eq_def]
      split <;> simp_all
  all_goals exact ⟨.char _, fun r => by simp [scan, shortEscape?], hchar⟩

theorem toList_quote (s : String) :
    (quote s).toList = '"' :: (s.toList.flatMap fun c => (quoteChar c).toList) ++ ['"'] := by
  simp [quote, String.toList_join, List.flatMap_map]

/-- A text that was quoted is read back, with its escapes undone. -/
theorem scan_quote (cs r : List Char) : ∃ ps,
    scan ((cs.flatMap fun c => (quoteChar c).toList) ++ '"' :: r) = (ps, .closed r) ∧
      join none ps = .ok cs := by
  induction cs with
  | nil => exact ⟨[], by simp [scan], rfl⟩
  | cons c cs ih =>
    obtain ⟨ps, hscan, hjoin⟩ := ih
    obtain ⟨p, hp, hpjoin⟩ := scan_quoteChar c
    refine ⟨p :: ps, ?_, hpjoin ps cs hjoin⟩
    rw [List.flatMap_cons, List.append_assoc, hp, hscan]

/-- A quoted text spells the text. -/
theorem spells_quote (s : String) : Spells (quote s).toList [.text s] := by
  intro r _
  obtain ⟨ps, hscan, hjoin⟩ := scan_quote s.toList r
  have htext : (quote s).toList ++ r =
      '"' :: ((s.toList.flatMap fun c => (quoteChar c).toList) ++ '"' :: r) := by
    simp [toList_quote]
  rw [htext, lex_of_quote hscan, Lexeme.ofPieces, hjoin]
  simp

/-! ## Numbers -/

theorem scanMagnitude_toDigits (negative : Bool) (n : Nat) : ∃ ds,
    scanMagnitude negative (Nat.toDigits 10 n) = .read ⟨negative, ds, [], 0⟩ true [] ∧
      Number.ofDigits ds = n := by
  obtain ⟨d, ds, htake, hvalue, hzero⟩ := Number.takeDigits_toDigits n
  have hwhole : scanWhole (Nat.toDigits 10 n) = .ok (d :: ds, []) := by
    rw [scanWhole, htake]
    simp only [ite_eq_right_iff, reduceCtorEq, imp_false, not_and, Classical.not_not]
    exact hzero
  exact ⟨d :: ds, by simp [scanMagnitude, hwhole, scanFraction, scanExponent, Number.readExponent],
    hvalue⟩

theorem lex_natural {n : Nat} (hn : n ≤ Number.wordLimit) :
    lex (toString n).toList = [.number (.natural n)] := by
  obtain ⟨ds, hscan, hvalue⟩ := scanMagnitude_toDigits false n
  have hdigit : ∀ c ∈ Nat.toDigits 10 n, Number.isDigit c = true :=
    fun c => Number.isDigit_of_mem_toDigits
  rw [Nat.toString_eq_ofList_toDigits, String.toList_ofList]
  cases hcs : Nat.toDigits 10 n with
  | nil => exact absurd hcs Nat.toDigits_ne_nil
  | cons c cs =>
    rw [hcs] at hscan hdigit
    have hc := hdigit c List.mem_cons_self
    have hsign : scanNumber (c :: cs) = scanMagnitude false (c :: cs) := by
      unfold scanNumber
      split
      · rename_i hminus
        cases hminus
        cases hc
      · rfl
    rw [lex_of_number (.inr hc) (hsign.trans hscan)]
    simp [Lexeme.ofNumeral, Quantity.ofNumeral?, hvalue, hn]

/-! ## A text that is read as a number -/

theorem abandon_ne_number {d : Document} {stack : List Frame} {q : Quantity}
    (h : stack = [] → d ≠ .number q) : abandon d stack ≠ .number q := by
  induction stack generalizing d with
  | nil => exact h rfl
  | cons frame stack ih => cases frame <;> exact ih nofun

namespace Build

/-- What is being read is no number, whatever follows. -/
def NoNumber (q : Quantity) : Build → Prop
  | reading _ stack => stack ≠ []
  | complete d _ | broken d => d ≠ .number q

variable {q : Quantity} {stack : List Frame} {b : Build}

theorem noNumber_put {d : Document} (h : stack = [] → d ≠ .number q) :
    (put d stack).NoNumber q := by
  cases stack with
  | nil => exact h rfl
  | cons frame stack => cases frame <;> exact nofun

theorem noNumber_value (h : stack ≠ []) (l : Lexeme) : (value l stack).NoNumber q := by
  have hput : ∀ d, (put d stack).NoNumber q := fun d => noNumber_put fun hnil => absurd hnil h
  unfold value
  split
  case h_7 start flaw =>
    split
    · exact hput _
    · exact abandon_ne_number nofun
  · exact hput _
  · exact hput _
  · exact hput _
  · exact hput _
  · exact List.cons_ne_nil _ _
  · exact List.cons_ne_nil _ _
  · exact abandon_ne_number nofun

theorem noNumber_name (l : Lexeme) (members : List (Key × Document)) :
    (name l members stack).NoNumber q := by
  unfold name
  split
  · exact List.cons_ne_nil _ _
  · exact List.cons_ne_nil _ _
  · exact abandon_ne_number nofun

theorem breakOff_ne_number (f : Fault) (stack : List Frame) : breakOff f stack ≠ .number q := by
  unfold breakOff
  split
  · nofun
  · exact abandon_ne_number nofun
  · exact abandon_ne_number nofun
  · exact abandon_ne_number nofun

theorem noNumber_goOn (l : Lexeme) (stack : List Frame) : (goOn l stack).NoNumber q := by
  unfold goOn
  split
  · exact List.cons_ne_nil _ _
  · exact List.cons_ne_nil _ _
  · exact noNumber_put nofun
  · exact noNumber_put nofun
  · exact breakOff_ne_number _ _

/-- What is not going to be a number does not become one. -/
theorem NoNumber.step (h : b.NoNumber q) (l : Lexeme) : (b.step l).NoNumber q := by
  unfold Build.step
  split
  · exact noNumber_value h l
  · exact noNumber_put nofun
  · exact noNumber_value h l
  · exact noNumber_put nofun
  · exact noNumber_name l _
  · exact noNumber_name l _
  · exact h
  · exact abandon_ne_number nofun
  · exact noNumber_goOn l _
  · exact breakOff_ne_number _ _
  · exact h
  · exact h

theorem NoNumber.finish (h : b.NoNumber q) : b.finish.1 ≠ .number q := by
  unfold Build.finish
  split
  · exact abandon_ne_number nofun
  · exact abandon_ne_number nofun
  · exact abandon_ne_number nofun
  · exact breakOff_ne_number _ _
  · exact h
  · exact h

theorem foldl_complete (d : Document) (followed : Bool) (ls : List Lexeme) :
    ls.foldl step (complete d followed) = complete d (followed || !ls.isEmpty) := by
  induction ls generalizing followed with
  | nil => simp
  | cons l ls ih =>
    rw [List.foldl_cons, step, ih]
    simp

theorem foldl_broken (d : Document) (ls : List Lexeme) : ls.foldl step (broken d) = broken d := by
  induction ls with
  | nil => rfl
  | cons l ls ih => exact ih

end Build

/-- A text is read as a number only if the number is all there is. -/
theorem lex_of_read {t : String} {q : Quantity} (h : read t = (.number q, false)) :
    lex t.toList = [.number q] := by
  unfold read at h
  generalize lex t.toList = ls at h ⊢
  cases ls with
  | nil => cases h
  | cons l ls =>
    have hfirst : ¬(Build.value l []).NoNumber q := by
      intro hno
      have hrest : (ls.foldl Build.step (Build.value l [])).NoNumber q :=
        ls.foldlRecOn Build.step hno fun b hb l _ => hb.step l
      exact hrest.finish (congrArg Prod.fst h)
    cases l with
    | number q' =>
      rw [List.foldl_cons, Build.step, Build.value, Build.put, Build.foldl_complete] at h
      obtain ⟨hq, hls⟩ := Prod.mk.inj h
      cases hq
      have hnil : ls = [] := by simpa using hls
      rw [hnil]
    | flawed start flaw =>
      refine absurd ?_ hfirst
      unfold Build.value
      dsimp only
      split <;> nofun
    | null | bool | text | openArray | openObject | closeArray | closeObject | comma | colon
    | stray => exact absurd nofun hfirst

/-! ## Documents -/

/-- The piece of text `t` is the document `d`, wherever a value may stand. -/
def Reads (t : List Char) (d : Document) : Prop :=
  ∀ r, Ends r → ∀ stack, (lex (t ++ r)).foldl Build.step (.reading .value stack) =
    (lex r).foldl Build.step (Build.put d stack)

section

variable {t : List Char} {d : Document}

/-- What is read as a document wherever it stands is read as that alone. -/
theorem Reads.read_eq {s : String} (h : Reads s.toList d) : read s = (d, false) := by
  have hend := h [] ends_nil []
  rw [List.append_nil, lex_nil, List.foldl_nil] at hend
  rw [read, hend]
  rfl

theorem Spells.reads {l : Lexeme} (h : Spells t [l])
    (hvalue : ∀ stack, Build.value l stack = Build.put d stack) : Reads t d := by
  intro r hr stack
  rw [h r hr, List.singleton_append, List.foldl_cons, Build.step, hvalue]

theorem reads_null : Reads "null".toList .null :=
  (spells_word (c := 'n') rfl).reads fun _ => rfl

theorem reads_bool (b : Bool) : Reads (if b then "true" else "false").toList (.bool b) := by
  cases b with
  | false => exact (spells_word (c := 'f') rfl).reads fun _ => rfl
  | true => exact (spells_word (c := 't') rfl).reads fun _ => rfl

theorem reads_quote (s : String) : Reads (quote s).toList (.text s) :=
  (spells_quote s).reads fun _ => rfl

theorem reads_of_lex {q : Quantity} (h : lex t = [.number q]) : Reads t (.number q) :=
  (spells_of_lex h).reads fun _ => rfl

theorem reads_natural {n : Nat} (hn : n ≤ Number.wordLimit) :
    Reads (toString n).toList (.natural n) :=
  reads_of_lex (lex_natural hn)

end

/-! ## Objects -/

/-- The piece of text `t` is the key, wherever a name may stand. -/
def ReadsKey (t : List Char) (key : Key) : Prop :=
  ∀ r await, await = .firstName ∨ await = .name → ∀ members stack,
    (lex (t ++ ':' :: r)).foldl Build.step (.reading await (.object members :: stack)) =
      (lex r).foldl Build.step (.reading .value (.member members key :: stack))

theorem Spells.readsKey {t : List Char} {l : Lexeme} {key : Key} (h : Spells t [l])
    (hname : ∀ await, await = .firstName ∨ await = .name → ∀ members stack,
      Build.step (.reading await (.object members :: stack)) l =
        .reading .colon (.member members key :: stack)) : ReadsKey t key := by
  intro r await hawait members stack
  rw [h _ (ends_cons rfl _), List.singleton_append, List.foldl_cons, hname await hawait,
    lex_of_mark rfl]
  rfl

theorem Spells.readsKey_text {t : List Char} {s : String} (h : Spells t [.text s]) :
    ReadsKey t (.name s) := by
  refine h.readsKey ?_
  rintro _ (rfl | rfl) _ _ <;> rfl

/-- A member of an object as it is written : the texts of its key and its value. -/
structure Entry where
  key : String
  value : String

/-- The text of a member, without a blank. -/
def Entry.text (e : Entry) : String := e.key ++ ":" ++ e.value

/-- The text of an object, with a gap after its opening brace. -/
def objectText (gap : String) (es : List Entry) : String :=
  "\x7b" ++ gap ++ ",".intercalate (es.map Entry.text) ++ "\x7d"

section

-- A member is given by some `m`, which says how it is written and what it is read as.
variable {ι : Type} {entry : ι → Entry} {member : ι → Key × Document}

/-- The entry is read as the member. -/
def ReadsMember (e : Entry) (m : Key × Document) : Prop :=
  ReadsKey e.key.toList m.1 ∧ Reads e.value.toList m.2

/-- A member is added to the object that waits for it. -/
theorem ReadsMember.step {e : Entry} {m : Key × Document} (h : ReadsMember e m) {r : List Char}
    (hr : Ends r) {await : Await} (hawait : await = .firstName ∨ await = .name)
    (members : List (Key × Document)) (stack : List Frame) :
    (lex (e.text.toList ++ r)).foldl Build.step (.reading await (.object members :: stack)) =
      (lex r).foldl Build.step (.reading .next (.object (m :: members) :: stack)) := by
  have htext : e.text.toList ++ r = e.key.toList ++ ':' :: (e.value.toList ++ r) := by
    simp [Entry.text]
  rw [htext, h.1 _ _ hawait, h.2 _ hr]
  rfl

/-- Members that are read back one by one are read back together. -/
theorem reads_members (members : List (Key × Document)) (stack : List Frame) (ms : List ι)
    (h : ∀ m ∈ ms, ReadsMember (entry m) (member m)) (hms : ms ≠ []) {await : Await}
    (hawait : await = .firstName ∨ await = .name) (r : List Char) :
    (lex ((",".intercalate (ms.map fun m => (entry m).text)).toList ++ '}' :: r)).foldl Build.step
        (.reading await (.object members :: stack)) =
      (lex r).foldl Build.step
        (Build.put (.object (members.reverse ++ ms.map member) none) stack) := by
  induction ms generalizing members await with
  | nil => exact absurd rfl hms
  | cons m ms ih =>
    have hm := h m List.mem_cons_self
    cases ms with
    | nil =>
      have htext : (",".intercalate ([m].map fun m => (entry m).text)).toList ++ '}' :: r =
          (entry m).text.toList ++ '}' :: r := by
        simp
      rw [htext, hm.step (ends_cons rfl _) hawait, lex_of_mark rfl, List.foldl_cons]
      simp [Build.step, Build.goOn]
    | cons m' ms =>
      have htext :
          (",".intercalate ((m :: m' :: ms).map fun m => (entry m).text)).toList ++ '}' :: r =
          (entry m).text.toList ++ ',' ::
            ((",".intercalate ((m' :: ms).map fun m => (entry m).text)).toList ++ '}' :: r) := by
        simp [String.intercalate_cons_cons]
      rw [htext, hm.step (ends_cons rfl _) hawait, lex_of_mark rfl, List.foldl_cons]
      have hrest := ih (member m :: members) (fun m hmem => h m (List.mem_cons_of_mem _ hmem))
        (List.cons_ne_nil _ _) (.inr rfl)
      simpa [Build.step, Build.goOn] using hrest

/-- An object is read from its members. -/
theorem reads_objectText {gap : String} (hgap : Blank gap) {ms : List ι}
    (h : ∀ m ∈ ms, ReadsMember (entry m) (member m)) :
    Reads (objectText gap (ms.map entry)).toList (.object (ms.map member) none) := by
  intro r _ stack
  have htext : (objectText gap (ms.map entry)).toList ++ r = '\x7b' :: (gap.toList ++
      ((",".intercalate (ms.map fun m => (entry m).text)).toList ++ '\x7d' :: r)) := by
    simp [objectText, Function.comp_def]
  rw [htext, lex_of_mark rfl, List.foldl_cons, hgap.lex_append]
  cases ms with
  | nil =>
    rw [List.map_nil, String.intercalate_nil, String.toList_empty, List.nil_append, lex_of_mark rfl]
    rfl
  | cons m ms => exact reads_members [] stack (m :: ms) h (List.cons_ne_nil _ _) (.inl rfl) r

end

/-- The text of an object, from the names of its members and the texts of their values. -/
def braces (ms : List (String × String)) : String :=
  "\x7b" ++ ",".intercalate (ms.map fun m => quote m.1 ++ ":" ++ m.2) ++ "\x7d"

theorem reads_braces {ms : List (String × String × Document)}
    (h : ∀ m ∈ ms, Reads m.2.1.toList m.2.2) :
    Reads (braces (ms.map fun m => (m.1, m.2.1))).toList
      (record (ms.map fun m => (m.1, m.2.2))) := by
  have hobject : Reads (objectText "" (ms.map fun m => ⟨quote m.1, m.2.1⟩)).toList
      (.object (ms.map fun m => (.name m.1, m.2.2)) none) :=
    reads_objectText blank_empty fun m hm => ⟨(spells_quote m.1).readsKey_text, h m hm⟩
  simpa [braces, objectText, record, Entry.text, Function.comp_def] using hobject

theorem write_record (ms : List (String × Document)) :
    (record ms).write = braces (ms.map fun m => (m.1, m.2.write)) := by
  have hmembers : writeMembers (ms.map fun m => (.name m.1, m.2)) =
      ",".intercalate (ms.map fun m => quote m.1 ++ ":" ++ m.2.write) := by
    induction ms with
    | nil => rfl
    | cons m ms ih =>
      cases ms with
      | nil => simp [writeMembers, writeMembers.writeKey]
      | cons m' ms =>
        rw [List.map_cons] at ih
        rw [List.map_cons, List.map_cons, writeMembers, ih]
        · simp [writeMembers.writeKey, String.intercalate_cons_cons, String.append_assoc]
        · nofun
  rw [record, write, hmembers, braces, List.map_map]
  rfl

/-! ## Arrays -/

section

variable {t r : List Char} {d : Document} {items : List Document} {stack : List Frame}

/-- What is read as a value is not the end of an array. -/
theorem Reads.firstItem (h : Reads t d) (hr : Ends r) :
    (lex (t ++ r)).foldl Build.step (.reading .firstItem (.array items :: stack)) =
      (lex r).foldl Build.step (Build.put d (.array items :: stack)) := by
  have hvalue := h r hr (.array items :: stack)
  have htop := h r hr []
  generalize lex (t ++ r) = ls at hvalue htop
  cases ls with
  | nil =>
    rw [Build.put, Build.foldl_complete] at htop
    cases htop
  | cons l ls =>
    have hl : l ≠ .closeArray := by
      rintro rfl
      rw [List.foldl_cons, Build.step, Build.value, Build.foldl_broken, Build.put,
        Build.foldl_complete] at htop
      · cases htop
      all_goals nofun
    have hstep : Build.step (.reading .firstItem (.array items :: stack)) l =
        Build.value l (.array items :: stack) := by
      cases l <;> first | rfl | exact absurd rfl hl
    rw [List.foldl_cons, hstep]
    exact hvalue

/-- The text of an array, with a gap after its opening bracket. -/
def arrayText (gap : String) (ts : List String) : String :=
  "[" ++ gap ++ ",".intercalate ts ++ "]"

-- An item is given by some `i`, which says how it is written and what it is read as.
variable {ι : Type} {text : ι → String} {item : ι → Document}

/-- Items are added to the array that waits for them. -/
theorem reads_items (items : List Document) (stack : List Frame) (is : List ι)
    (h : ∀ i ∈ is, Reads (text i).toList (item i)) (his : is ≠ [])
    {await : Await} (hawait : await = .firstItem ∨ await = .value) (r : List Char) :
    (lex ((",".intercalate (is.map text)).toList ++ ']' :: r)).foldl Build.step
        (.reading await (.array items :: stack)) =
      (lex r).foldl Build.step (Build.put (.array (items.reverse ++ is.map item) none) stack) := by
  induction is generalizing items await with
  | nil => exact absurd rfl his
  | cons i is ih =>
    have hfirst : ∀ r, Ends r → (lex ((text i).toList ++ r)).foldl Build.step
        (.reading await (.array items :: stack)) =
          (lex r).foldl Build.step (Build.put (item i) (.array items :: stack)) := by
      intro r hr
      have hi := h i List.mem_cons_self
      rcases hawait with rfl | rfl
      · exact hi.firstItem hr
      · exact hi r hr _
    cases is with
    | nil =>
      have htext : (",".intercalate ([i].map text)).toList = (text i).toList := by simp
      rw [htext, hfirst _ (ends_cons rfl _), lex_of_mark rfl, List.foldl_cons]
      simp [Build.put, Build.step, Build.goOn]
    | cons j is =>
      have htext : (",".intercalate ((i :: j :: is).map text)).toList ++ ']' :: r =
          (text i).toList ++ ',' ::
            ((",".intercalate ((j :: is).map text)).toList ++ ']' :: r) := by
        simp [String.intercalate_cons_cons]
      rw [htext, hfirst _ (ends_cons rfl _), lex_of_mark rfl, List.foldl_cons]
      have hrest := ih (item i :: items) (fun i hi => h i (List.mem_cons_of_mem _ hi))
        (List.cons_ne_nil _ _) (.inr rfl)
      simpa [Build.put, Build.step, Build.goOn] using hrest

/-- An array is read from its items. -/
theorem reads_arrayText {gap : String} (hgap : Blank gap) {is : List ι}
    (h : ∀ i ∈ is, Reads (text i).toList (item i)) :
    Reads (arrayText gap (is.map text)).toList (.array (is.map item) none) := by
  intro r _ stack
  have htext : (arrayText gap (is.map text)).toList ++ r =
      '[' :: (gap.toList ++ ((",".intercalate (is.map text)).toList ++ ']' :: r)) := by
    simp [arrayText]
  rw [htext, lex_of_mark rfl, List.foldl_cons, hgap.lex_append]
  cases is with
  | nil =>
    rw [List.map_nil, String.intercalate_nil, String.toList_empty, List.nil_append, lex_of_mark rfl]
    rfl
  | cons i is => exact reads_items [] stack (i :: is) h (List.cons_ne_nil _ _) (.inl rfl) r

theorem write_list (items : List Document) :
    (list items).write = arrayText "" (items.map write) := by
  have hitems : writeItems items = ",".intercalate (items.map write) := by
    induction items with
    | nil => rfl
    | cons d ds ih =>
      cases ds with
      | nil => simp [writeItems]
      | cons d' ds =>
        rw [List.map_cons] at ih
        rw [List.map_cons, List.map_cons, writeItems, ih, String.intercalate_cons_cons,
          String.append_assoc]
        nofun
  rw [list, write, hitems, arrayText, String.append_empty]

theorem reads_list (h : ∀ d ∈ items, Reads d.write.toList d) :
    Reads (list items).write.toList (list items) := by
  have harray := reads_arrayText blank_empty h
  rwa [← write_list, List.map_id'] at harray

end

/-! ## All documents -/

/-- A document without flaws, whose numbers are read back from their texts. -/
inductive Sound : Document → Prop
  | null : Sound .null
  | bool (b : Bool) : Sound (.bool b)
  | number {q : Quantity} (h : read q.write = (.number q, false)) : Sound (.number q)
  | text (s : String) : Sound (.text s)
  | list {items : List Document} (h : ∀ d ∈ items, Sound d) : Sound (.list items)
  | record {ms : List (String × Document)} (h : ∀ m ∈ ms, Sound m.2) : Sound (.record ms)

theorem Sound.natural {n : Nat} (hn : n ≤ Number.wordLimit) : Sound (.natural n) :=
  .number (reads_natural hn).read_eq

/-- A sound document is read back as it was from its own text. -/
theorem Sound.reads {d : Document} (h : Sound d) : Reads d.write.toList d := by
  induction h with
  | null => exact reads_null
  | bool b => exact reads_bool b
  | number h => exact reads_of_lex (lex_of_read h)
  | text s => exact reads_quote s
  | list h ih => exact reads_list ih
  | @record ms h ih =>
    have hms : ∀ m ∈ ms.map fun m => (m.1, m.2.write, m.2), Reads m.2.1.toList m.2.2 := by
      intro m hm
      obtain ⟨m', hm', rfl⟩ := List.mem_map.1 hm
      exact ih m' hm'
    have hbraces := reads_braces hms
    rw [write_record]
    simpa [Function.comp_def] using hbraces

/-- What is written is read back. -/
theorem read_write {d : Document} (h : Sound d) : read d.write = (d, false) := h.reads.read_eq

end Document

end Resilience
