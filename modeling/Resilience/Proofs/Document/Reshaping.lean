import Resilience.Proofs.Document.Arrangement
import Resilience.Proofs.Document.Grammar

/-!
# Objects written in another way

The text of an object may be reshaped (`Reshaped`) : its members moved, others of unknown names put
among them, blanks put anywhere between. It may lack one of its members (`Omits`, `Vacant`), or have
something done to the value of one (`Within`). What a record read from the new text is follows from
what it was before.
-/

namespace Resilience.Document

/-! ## Texts of objects -/

/-- The key is a quoted text and the value a text. -/
structure Entry.WellFormed (e : Entry) : Prop where
  key : ∃ ps, Quotes ps e.key
  value : Document.WellFormed e.value

theorem Names.entry {k n v : String} (h : Names k n) (hv : Document.WellFormed v) :
    Entry.WellFormed ⟨k, v⟩ :=
  ⟨h.imp fun _ h => h.1, hv⟩

/-- The text of an object with these members, with blanks around it or not. -/
def HasMembers (t : String) (es : List Entry) : Prop :=
  (∀ e ∈ es, e.WellFormed) ∧
    ∃ a gap b, Blank a ∧ Blank gap ∧ Blank b ∧ t = a ++ objectText gap es ++ b

/-- `t'` has the members of `t` and others of unknown names, all in any order. -/
def Reshaped (known : List String) (t t' : String) : Prop :=
  ∃ es es' added, HasMembers t es ∧ HasMembers t' es' ∧ es'.Perm (added ++ es) ∧
    ∀ e ∈ added, ∃ n, Names e.key n ∧ n ∉ known

/-- `t'` is `t` without a member of this name. -/
def Omits (name : String) (t t' : String) : Prop :=
  ∃ before e after, Names e.key name ∧ HasMembers t (before ++ e :: after) ∧
    HasMembers t' (before ++ after)

/-- `t'` is `t` and one more member, an empty object under a name that `t` does not have. -/
def Vacant (name : String) (t t' : String) : Prop :=
  ∃ before e after, Names e.key name ∧ HasMembers e.value [] ∧
    (∀ e' ∈ before ++ after, ¬Names e'.key name) ∧ HasMembers t (before ++ after) ∧
    HasMembers t' (before ++ e :: after)

/-- `t'` is `t` with the value of a member of this name changed by `R`. -/
def Within (name : String) (R : String → String → Prop) (t t' : String) : Prop :=
  ∃ before e after v, Names e.key name ∧ R e.value v ∧ HasMembers t (before ++ e :: after) ∧
    HasMembers t' (before ++ { e with value := v } :: after)

section

variable {t t' : String} {es es' : List Entry}

/-- Members may be moved. -/
theorem reshaped_of_perm {known : List String} (ht : HasMembers t es) (ht' : HasMembers t' es')
    (hperm : es'.Perm es) : Reshaped known t t' :=
  ⟨es, es', [], ht, ht', hperm, nofun⟩

/-- A member of an unknown name may be put in anywhere. -/
theorem reshaped_of_insertion {known : List String} (before after : List Entry) {e : Entry}
    {n : String} (hname : Names e.key n) (hn : n ∉ known) (ht : HasMembers t (before ++ after))
    (ht' : HasMembers t' (before ++ e :: after)) : Reshaped known t t' :=
  ⟨_, _, [e], ht, ht', List.perm_middle, by simpa using ⟨n, hname, hn⟩⟩

theorem HasMembers.reads (h : HasMembers t es) :
    Reads t.toList (.object (es.map Entry.member) none) := by
  obtain ⟨hes, a, gap, b, ha, hgap, hb, rfl⟩ := h
  have hmembers : ∀ e ∈ es, ReadsMember e e.member := by
    intro e he
    obtain ⟨ps, hquotes⟩ := (hes e he).key
    exact ⟨hquotes.readsKey, (hes e he).value.passable.reads⟩
  have hreads := reads_objectText hgap hmembers
  rw [List.map_id'] at hreads
  simpa using Reads.padded ha hreads hb

theorem hasMembers_objectText (h : ∀ e ∈ es, e.WellFormed) : HasMembers (objectText "" es) es :=
  ⟨h, "", "", "", blank_empty, blank_empty, blank_empty, by simp⟩

theorem HasMembers.wellFormed (h : HasMembers t es) : WellFormed t := by
  obtain ⟨hes, a, gap, b, ha, hgap, hb, rfl⟩ := h
  exact .padded ha (.object hgap (fun e he => (hes e he).key) fun e he => (hes e he).value) hb

/-- A key that is read as a name is the name in quotes. -/
theorem Quotes.names_of_key {ps : List Piece} {n : String} (h : Quotes ps t)
    (hkey : Key.ofText t = .name n) : Names t n := by
  cases hjoin : join none ps with
  | ok cs =>
    have hjoin' : join none ps = .ok (String.ofList cs).toList := by simpa using hjoin
    rw [Names.key_eq ⟨ps, h, hjoin'⟩] at hkey
    cases hkey
    exact ⟨ps, h, hjoin'⟩
  | error f =>
    rw [Key.ofText, (h.reads_of_surrogate hjoin).meaning_eq] at hkey
    cases hkey

end

/-! ## Records of these objects -/

section

variable {σ : Type} {facets : List (Facet σ)} {title : String} {start s : σ} {t t' : String}

/-- An object holds a record exactly if its members set it. -/
theorem HasMembers.loads_iff (hfacets : Layout facets) {es : List Entry} (h : HasMembers t es) :
    Loads (asRecord title (facets.map Facet.field) start) t s ↔
      Sets facets [] start (es.map Entry.member) s := by
  rw [← setMembers_eq_ok_iff hfacets]
  constructor
  · rintro ⟨d, hreads, hd⟩
    obtain rfl : Document.object (es.map Entry.member) none = d :=
      h.reads.meaning_eq.symm.trans hreads.meaning_eq
    obtain ⟨s', hset, hs'⟩ := exists_of_bind_eq_ok hd
    cases hs'
    exact hset
  · intro hset
    refine ⟨_, h.reads, ?_⟩
    rw [asRecord, hset]
    rfl

theorem HasMembers.loads_of_readAs {α : Type} {f : Document → Except Refusal α} {es : List Entry}
    (h : HasMembers t es) {a : α} (ha : readAs f t = .ok a) : Loads f t a := by
  obtain ⟨d, hread, hd⟩ := read_of_readAs ha
  obtain rfl : meaning t = d := congrArg Prod.fst hread
  exact ⟨meaning t, h.wellFormed.passable.reads, hd⟩

/-- No record is read from an object with a member that has no name. -/
theorem HasMembers.named (hfacets : Layout facets) {es : List Entry} (h : HasMembers t es)
    (hloads : Loads (asRecord title (facets.map Facet.field) start) t s) {e : Entry} (he : e ∈ es) :
    ∃ n, Names e.key n := by
  obtain ⟨n, hn⟩ := ((h.loads_iff hfacets).1 hloads).named _ (List.mem_map_of_mem he)
  obtain ⟨ps, hquotes⟩ := (h.1 e he).key
  exact ⟨n, hquotes.names_of_key hn⟩

/-- Members of unknown names change nothing. -/
theorem Sets.add {seen : List String} {ms : List (Key × Document)} {added : List Entry}
    (hes : ∀ e ∈ added, e.WellFormed)
    (hadded : ∀ e ∈ added, ∃ n, Names e.key n ∧ n ∉ facets.map Facet.name)
    (h : Sets facets seen start ms s) :
    Sets facets seen start (added.map Entry.member ++ ms) s := by
  induction added with
  | nil => exact h
  | cons e added ih =>
    obtain ⟨n, hname, hn⟩ := hadded e List.mem_cons_self
    rw [List.map_cons, List.cons_append, Entry.member, hname.key_eq]
    exact .unknown hn (hes e List.mem_cons_self).value.passable.pass
      (ih (fun e he => hes e (List.mem_cons_of_mem _ he))
        fun e he => hadded e (List.mem_cons_of_mem _ he))

/-- The record read from a reshaped object is the same. -/
theorem Loads.reshaped (hfacets : Layout facets)
    (h : Loads (asRecord title (facets.map Facet.field) start) t s)
    (hshape : Reshaped (facets.map Facet.name) t t') :
    Loads (asRecord title (facets.map Facet.field) start) t' s := by
  obtain ⟨es, es', added, ht, ht', hperm, hadded⟩ := hshape
  have hes : ∀ e ∈ added, e.WellFormed := fun e he =>
    ht'.1 e (hperm.mem_iff.2 (List.mem_append_left _ he))
  have hsets := ((ht.loads_iff hfacets).1 h).add hes hadded
  rw [← List.map_append] at hsets
  exact (ht'.loads_iff hfacets).2 (hsets.perm hfacets (hperm.map _).symm)

variable {p : Facet σ}

/-- The members of an object, one of them first. -/
theorem member_first {e : Entry} (hname : Names e.key p.name) (before after : List Entry) :
    ((before ++ e :: after).map Entry.member).Perm
      ((.name p.name, meaning e.value) :: (before ++ after).map Entry.member) := by
  have hmiddle : (before ++ e :: after).Perm (e :: (before ++ after)) := List.perm_middle
  have hperm := hmiddle.map Entry.member
  rwa [List.map_cons, Entry.member, hname.key_eq] at hperm

/-- Without a member, the record has the member's facet as it was at the start. -/
theorem Loads.omits (hfacets : Layout facets) (hp : p ∈ facets)
    (h : Loads (asRecord title (facets.map Facet.field) start) t s) (homits : Omits p.name t t') :
    Loads (asRecord title (facets.map Facet.field) start) t' (p.reset start s) := by
  obtain ⟨before, e, after, hname, ht, ht'⟩ := homits
  have hsets := ((ht.loads_iff hfacets).1 h).perm hfacets (member_first hname before after)
  exact (ht'.loads_iff hfacets).2 (hsets.reset hfacets hp)

/-! ## Records inside records -/

/-- The facet is a record of these facets itself, which starts as it does in `start`. -/
structure Facet.Nests (p : Facet σ) (start : σ) (inner : List (Facet p.α)) : Prop where
  get_put : ∀ a s, p.get (p.put a s) = a
  layout : Layout inner
  read_eq : ∃ title, p.read = asRecord title (inner.map Facet.field) (p.get start)

/-- What is done to the value of a member is done to its facet. -/
theorem Loads.within (hfacets : Layout facets) (hp : p ∈ facets)
    (hget : ∀ a s, p.get (p.put a s) = a) {R : String → String → Prop} {g : p.α → p.α}
    (hR : ∀ v v' a, R v v' → Loads p.read v a → Loads p.read v' (g a))
    (h : Loads (asRecord title (facets.map Facet.field) start) t s)
    (hwithin : Within p.name R t t') :
    Loads (asRecord title (facets.map Facet.field) start) t' (p.put (g (p.get s)) s) := by
  obtain ⟨before, e, after, v, hname, hv, ht, ht'⟩ := hwithin
  have hsets := ((ht.loads_iff hfacets).1 h).perm hfacets (member_first hname before after)
  obtain ⟨a, hread, -, hs⟩ := hsets.exists_value hfacets hp
  have ha : p.get s = a := by rw [hs, hget]
  have he : e.WellFormed := ht.1 e (List.mem_append_right _ List.mem_cons_self)
  obtain ⟨d, hreads, hd⟩ := hR _ _ a hv ⟨_, he.value.passable.reads, hread⟩
  obtain rfl := hreads.meaning_eq
  have hnew := (hsets.replace hfacets hp hd).perm hfacets
    (member_first (e := { e with value := v }) hname before after).symm
  rw [ha]
  exact (ht'.loads_iff hfacets).2 hnew

variable {inner : List (Facet p.α)}

/-- Another shape of a member that is a record does not change what the whole holds. -/
theorem Loads.reshaped_within (hfacets : Layout facets) (hp : p ∈ facets)
    (hinner : p.Nests start inner) (h : Loads (asRecord title (facets.map Facet.field) start) t s)
    (hwithin : Within p.name (Reshaped (inner.map Facet.name)) t t') :
    Loads (asRecord title (facets.map Facet.field) start) t' s := by
  obtain ⟨_, hread⟩ := hinner.read_eq
  have hloads := h.within (g := id) hfacets hp hinner.get_put (fun v v' a hshape hv => by
    rw [hread] at hv ⊢
    exact hv.reshaped hinner.layout hshape) hwithin
  rwa [id, p.put_get] at hloads

/-- A member of a member that is left out leaves its facet at the start. -/
theorem Loads.omits_within (hfacets : Layout facets) (hp : p ∈ facets)
    (hinner : p.Nests start inner) (h : Loads (asRecord title (facets.map Facet.field) start) t s)
    {q : Facet p.α} (hq : q ∈ inner) (hwithin : Within p.name (Omits q.name) t t') :
    Loads (asRecord title (facets.map Facet.field) start) t'
      (p.put (q.reset (p.get start) (p.get s)) s) := by
  obtain ⟨_, hread⟩ := hinner.read_eq
  refine h.within (g := q.reset (p.get start)) hfacets hp hinner.get_put
    (fun v v' a homits hv => ?_) hwithin
  rw [hread] at hv ⊢
  exact hv.omits hinner.layout hq homits

/-- A member that is a record may be missing if it is empty. -/
theorem Loads.vacant_iff (hfacets : Layout facets) (hp : p ∈ facets) (hinner : p.Nests start inner)
    (hvacant : Vacant p.name t t') :
    Loads (asRecord title (facets.map Facet.field) start) t s ↔
      Loads (asRecord title (facets.map Facet.field) start) t' s := by
  obtain ⟨before, e, after, hname, hvalue, habsent, ht, ht'⟩ := hvacant
  obtain ⟨_, hread⟩ := hinner.read_eq
  have hempty : p.read (meaning e.value) = .ok (p.get start) := by
    rw [hread, hvalue.reads.meaning_eq]
    rfl
  have hkeys : ∀ m ∈ (before ++ after).map Entry.member, m.1 ≠ .name p.name := by
    intro m hm hkey
    obtain ⟨e', he', rfl⟩ := List.mem_map.1 hm
    obtain ⟨ps, hquotes⟩ := (ht.1 e' he').key
    exact habsent e' he' (hquotes.names_of_key hkey)
  have hfirst := member_first hname before after
  rw [ht.loads_iff hfacets, ht'.loads_iff hfacets,
    ← Sets.vacant_iff hfacets hp hempty hkeys List.not_mem_nil]
  exact ⟨Sets.perm hfacets hfirst.symm, Sets.perm hfacets hfirst⟩

end

end Resilience.Document
