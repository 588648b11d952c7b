import Resilience.Document.Record
import Resilience.Proofs.Document.Rereading

/-!
# Reading what a text holds

A text is read as a document and the document as a value. That a text holds a value wherever it
stands (`Loads`) says both at once, so that a text put together from others holds the value put
together from theirs : an object that names some of the fields of a record, in their order, holds
the record with these fields set (`loads_braces`).

Whatever is read, every property that is kept by the fields one by one holds of the record at the
end (`asRecord_keeps`).
-/

namespace Resilience.Document

variable {σ α : Type}

theorem exists_of_bind_eq_ok {ε β : Type} {x : Except ε α} {f : α → Except ε β} {b : β}
    (h : x >>= f = .ok b) : ∃ a, x = .ok a ∧ f a = .ok b := by
  cases x with
  | error e => cases h
  | ok a => exact ⟨a, rfl, h⟩

theorem exists_of_map_eq_ok {ε β : Type} {x : Except ε α} {f : α → β} {b : β}
    (h : x.map f = .ok b) : ∃ a, x = .ok a ∧ f a = b := by
  cases x with
  | error e => cases h
  | ok a => exact ⟨a, rfl, Except.ok.inj h⟩

theorem eq_ok_of_toOption {ε : Type} {x : Except ε α} {a : α} (h : x.toOption = some a) :
    x = .ok a := by
  cases x with
  | error e => cases h
  | ok b => rw [Option.some.inj h]

/-! ## Texts and the values they hold -/

/-- Wherever a value may stand, `f` reads the text as `a`. -/
def Loads (f : Document → Except Refusal α) (t : String) (a : α) : Prop :=
  ∃ d, Reads t.toList d ∧ f d = .ok a

/-- A text that holds a value wherever it stands holds it as a whole. -/
theorem Loads.readAs_eq {f : Document → Except Refusal α} {t : String} {a : α} (h : Loads f t a) :
    readAs f t = .ok a := by
  obtain ⟨d, hreads, ha⟩ := h
  rw [readAs, hreads.read_eq]
  simp only [ha]
  rfl

theorem loads_bool (wanted : String) (b : Bool) :
    Loads (asBool wanted) (if b then "true" else "false") b :=
  ⟨.bool b, reads_bool b, rfl⟩

/-- The text of a natural number within the limit holds it. -/
theorem loads_natural (wanted : String) {n limit : Nat} (hn : n ≤ limit)
    (hlimit : limit ≤ Number.wordLimit) : Loads (asNatural wanted limit) (toString n) n :=
  ⟨.natural n, reads_natural (Nat.le_trans hn hlimit), by simp [asNatural, natural, hn]⟩

theorem loads_word32 (n : UInt32) : Loads asWord32 (toString n.toNat) n := by
  obtain ⟨d, hreads, hd⟩ := loads_natural "u32" (Nat.le_of_lt_succ n.toNat_lt) (by decide)
  refine ⟨d, hreads, ?_⟩
  show (asNatural "u32" Number.word32Limit d).map UInt32.ofNat = .ok n
  rw [Number.word32Limit, hd, Except.map, UInt32.ofNat_toNat]

/-- The text of a count of milliseconds holds the duration. -/
theorem loads_millis (wanted : String) {ms : Nat} (hms : ms ≤ Number.wordLimit) :
    Loads (asMillis wanted) (toString ms) (Time.ofMillis ms) := by
  obtain ⟨d, hreads, hd⟩ := loads_natural wanted hms (Nat.le_refl _)
  exact ⟨d, hreads, by rw [asMillis, hd]; rfl⟩

theorem loads_choice (known : List String) {find : String → Option α} {name : String} {a : α}
    (h : find name = some a) : Loads (asChoice known find) (quote name) a :=
  ⟨.text name, reads_quote name, by rw [asChoice, h]⟩

theorem read_of_readAs {f : Document → Except Refusal α} {t : String} {a : α}
    (h : readAs f t = .ok a) : ∃ d, read t = (d, false) ∧ f d = .ok a := by
  cases hread : read t with
  | mk d followed =>
    rw [readAs, hread] at h
    obtain ⟨a', ha, hend⟩ := exists_of_bind_eq_ok h
    cases followed with
    | true => cases hend
    | false =>
      cases hend
      exact ⟨d, rfl, ha⟩

/-- A text that holds a number alone holds it wherever it stands. -/
theorem loads_float {wanted t : String} {x : Float} (h : readAs (asFloat wanted) t = .ok x) :
    Loads (asFloat wanted) t x := by
  obtain ⟨d, hread, hx⟩ := read_of_readAs h
  cases d with
  | number q => exact ⟨.number q, reads_of_lex (lex_of_read hread), hx⟩
  | null | bool | text | array | object | flawed => cases hx

/-! ## Objects for records -/

/-- The members that are there. -/
def given (ms : List (String × Option String)) : List (String × String) :=
  ms.filterMap fun m => m.2.map (m.1, ·)

theorem given_concat_none (ms : List (String × Option String)) (name : String) :
    given (ms ++ [(name, none)]) = given ms := by
  simp [given]

/-- A field, the text of the value it is given, if any, and what becomes of the record. -/
structure Filling (σ : Type) where
  field : Field σ
  text? : Option String
  put : σ → σ
  set_eq : ∀ t ∈ text?, ∃ d, Reads t.toList d ∧ ∀ s, field.set d s = .ok (put s)
  put_eq : text? = none → ∀ s, put s = s

/-- If there is a value, the text beside it holds it. -/
def Spelled (f : Document → Except Refusal α) (value? : Option (String × α)) : Prop :=
  ∀ v ∈ value?, Loads f v.1 v.2

theorem Spelled.some {f : Document → Except Refusal α} {t : String} {a : α} (h : Loads f t a) :
    Spelled f (some (t, a)) := by
  rintro _ ⟨⟩
  exact h

theorem Spelled.map {β : Type} {f : Document → Except Refusal α} {b? : Option β} {text : β → String}
    {value : β → α} (h : ∀ b ∈ b?, Loads f (text b) (value b)) :
    Spelled f (b?.map fun b => (text b, value b)) := by
  intro v hv
  obtain ⟨b, hb, rfl⟩ := Option.map_eq_some_iff.1 hv
  exact h b hb

/-- The field `name` with a value, if any. Without one the field keeps what it is. -/
def Filling.of (name : String) {read : Document → Except Refusal α} (get : σ → α)
    (put : α → σ → σ) (put_get : ∀ s, put (get s) s = s) {value? : Option (String × α)}
    (h : Spelled read value?) : Filling σ where
  field := .of name read put
  text? := value?.map Prod.fst
  put s := put ((value?.map Prod.snd).getD (get s)) s
  set_eq := by
    intro t ht
    obtain ⟨v, rfl, rfl⟩ := Option.map_eq_some_iff.1 ht
    obtain ⟨d, hreads, hd⟩ := h v rfl
    refine ⟨d, hreads, fun s => ?_⟩
    show (read d).map (fun a => put a s) = .ok (put v.2 s)
    rw [hd, Except.map]
  put_eq := by
    intro hnone s
    rw [Option.map_eq_none_iff.1 hnone]
    exact put_get s

/-- A facet of a record : how it is named, read, looked up and put in. -/
structure Facet (σ : Type) where
  {α : Type}
  name : String
  read : Document → Except Refusal α
  get : σ → α
  put : α → σ → σ
  put_get : ∀ s, put (get s) s = s
  put_put : ∀ a b s, put a (put b s) = put a s

/-- The field that sets the facet. -/
def Facet.field (p : Facet σ) : Field σ := .of p.name p.read p.put

/-- A facet with a value, if any. -/
def Facet.filling (p : Facet σ) {value? : Option (String × p.α)} (h : Spelled p.read value?) :
    Filling σ :=
  .of p.name p.get p.put p.put_get h

/-- Members for different fields set each of these fields. -/
theorem setMembers_fillings {fields : List (Field σ)} (fs : List (Filling σ)) (seen : List String)
    (s : σ) (hfind : ∀ f ∈ fs, fields.find? (·.name == f.field.name) = some f.field)
    (hnodup : (fs.map (·.field.name)).Nodup) (hseen : ∀ f ∈ fs, f.field.name ∉ seen) :
    ∃ ms : List (String × String × Document),
      (ms.map fun m => (m.1, m.2.1)) = given (fs.map fun f => (f.field.name, f.text?)) ∧
        (∀ m ∈ ms, Reads m.2.1.toList m.2.2) ∧
        setMembers fields seen s (ms.map fun m => (.name m.1, m.2.2)) =
          .ok (fs.foldl (fun s f => f.put s) s) := by
  induction fs generalizing seen s with
  | nil => exact ⟨[], rfl, nofun, rfl⟩
  | cons f fs ih =>
    rw [List.map_cons, List.nodup_cons] at hnodup
    have hrest := fun seen s => ih seen s (fun g hg => hfind g (List.mem_cons_of_mem _ hg)) hnodup.2
    cases htext : f.text? with
    | none =>
      obtain ⟨ms, hms, hreads, hset⟩ := hrest seen s fun g hg => hseen g (List.mem_cons_of_mem _ hg)
      refine ⟨ms, ?_, hreads, ?_⟩
      · rw [hms, List.map_cons, htext]
        rfl
      · rw [hset, List.foldl_cons, f.put_eq htext]
    | some t =>
      obtain ⟨d, hd, hput⟩ := f.set_eq t htext
      have hnames : ∀ g ∈ fs, g.field.name ∉ f.field.name :: seen := by
        intro g hg hmem
        rcases List.mem_cons.1 hmem with heq | hold
        · exact hnodup.1 (heq ▸ List.mem_map_of_mem hg)
        · exact hseen g (List.mem_cons_of_mem _ hg) hold
      obtain ⟨ms, hms, hreads, hset⟩ := hrest (f.field.name :: seen) (f.put s) hnames
      refine ⟨(f.field.name, t, d) :: ms, ?_, ?_, ?_⟩
      · rw [List.map_cons, hms, List.map_cons, htext]
        rfl
      · intro m hm
        rcases List.mem_cons.1 hm with rfl | hm
        · exact hd
        · exact hreads m hm
      · simp only [List.map_cons, setMembers, hfind f List.mem_cons_self,
          if_neg (hseen f List.mem_cons_self), hput s]
        exact hset

theorem find?_field {fields : List (Field σ)} (hnodup : (fields.map (·.name)).Nodup) {f : Field σ}
    (hf : f ∈ fields) : fields.find? (·.name == f.name) = some f := by
  induction fields with
  | nil => cases hf
  | cons g fields ih =>
    rw [List.map_cons, List.nodup_cons] at hnodup
    rcases List.mem_cons.1 hf with rfl | hf
    · simp
    · have hne : g.name ≠ f.name := fun heq => hnodup.1 (heq ▸ List.mem_map_of_mem hf)
      rw [List.find?_cons_of_neg (by simpa using hne)]
      exact ih hnodup.2 hf

/-- An object that names some of the fields in their order holds the record with these set. -/
theorem loads_braces (title : String) (fs : List (Filling σ)) (s : σ)
    (hnodup : (fs.map (·.field.name)).Nodup) :
    Loads (asRecord title (fs.map (·.field)) s)
      (braces (given (fs.map fun f => (f.field.name, f.text?))))
      (fs.foldl (fun s f => f.put s) s) := by
  have hnames : ((fs.map (·.field)).map (·.name)).Nodup := by rwa [List.map_map]
  obtain ⟨ms, hms, hreads, hset⟩ := setMembers_fillings fs [] s
    (fun _ hf => find?_field hnames (List.mem_map_of_mem hf)) hnodup fun _ _ => List.not_mem_nil
  refine ⟨record (ms.map fun m => (m.1, m.2.2)), hms ▸ reads_braces hreads, ?_⟩
  rw [record, List.map_map, asRecord]
  simp only [Function.comp_def, hset]
  rfl

/-! ## What every field keeps -/

/-- The field keeps the property, whatever it is set to. -/
def Field.Keeps (P : σ → Prop) (f : Field σ) : Prop :=
  ∀ d s s', P s → f.set d s = .ok s' → P s'

section

variable {P : σ → Prop}

theorem Field.keeps_of {name : String} {read : Document → Except Refusal α} {put : α → σ → σ}
    (h : ∀ d a s, read d = .ok a → P s → P (put a s)) : (Field.of name read put).Keeps P := by
  intro d s s' hs hset
  obtain ⟨a, hread, rfl⟩ := exists_of_map_eq_ok hset
  exact h d a s hread hs

variable {fields : List (Field σ)} {s s' : σ}

theorem setMembers_keeps (hfields : ∀ f ∈ fields, f.Keeps P) {seen : List String}
    {members : List (Key × Document)} (hs : P s)
    (h : setMembers fields seen s members = .ok s') : P s' := by
  fun_induction setMembers fields seen s members with
  | case1 => exact Except.ok.inj h ▸ hs
  | case3 seen s n d ms field hfind hseen ih =>
    obtain ⟨t, hset, hrest⟩ := exists_of_bind_eq_ok h
    exact ih t (hfields field (List.mem_of_find?_eq_some hfind) d s t hs hset) hrest
  | case5 seen s n d ms hfind hpass ih => exact ih hs h
  | case2 | case4 | case6 | case7 => cases h

theorem setItems_keeps (hfields : ∀ f ∈ fields, f.Keeps P) {items : List Document} (hs : P s)
    (h : setItems s fields items = .ok s') : P s' := by
  fun_induction setItems s fields items with
  | case1 => exact Except.ok.inj h ▸ hs
  | case2 => cases h
  | case3 s field fields d ds ih =>
    obtain ⟨t, hset, hrest⟩ := exists_of_bind_eq_ok h
    exact ih t (fun f hf => hfields f (List.mem_cons_of_mem _ hf))
      (hfields field List.mem_cons_self d s t hs hset) hrest

/-- What every field keeps is kept by a record, whether it is written as an object or an array. -/
theorem asRecord_keeps {title : String} {d : Document} (hfields : ∀ f ∈ fields, f.Keeps P)
    (hs : P s) (h : asRecord title fields s d = .ok s') : P s' := by
  unfold asRecord at h
  split at h
  · obtain ⟨t, hset, hend⟩ := exists_of_bind_eq_ok h
    split at hend
    · exact Except.ok.inj hend ▸ setMembers_keeps hfields hs hset
    · cases hend
  · obtain ⟨t, hset, hend⟩ := exists_of_bind_eq_ok h
    split at hend
    · exact Except.ok.inj hend ▸ setItems_keeps hfields hs hset
    · cases hend
  · cases h

end

/-! ## Numbers that are read -/

theorem le_of_asNatural {wanted : String} {n limit : Nat} {d : Document}
    (h : asNatural wanted limit d = .ok n) : n ≤ limit := by
  unfold asNatural at h
  split at h
  · split at h
    · cases h
      assumption
    · cases h
  · cases h
  · cases h

end Resilience.Document
