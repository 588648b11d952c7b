import Resilience.Proofs.Document.Records

/-!
# Members in any arrangement

A record is made of facets, each with a name and a value that can be read and put in (`Facet`).
Facets of different names do not touch each other (`Layout`). What the members of an object do to
such a record is told one member at a time (`Sets`), and does not depend on where they stand :
members may be moved (`Sets.perm`), members of other names may come and go (`Sets.unknown`), a
member taken away leaves its facet as it was at the start (`Sets.reset`), and another value in its
place is put in instead (`Sets.replace`).
-/

namespace Resilience.Document

variable {σ : Type}

namespace Facet

/-- The record with the facet as it is in `start`. -/
def reset (p : Facet σ) (start s : σ) : σ := p.put (p.get start) s

/-- It makes no difference which of the facets is put in first. -/
def Apart (p q : Facet σ) : Prop := ∀ a b s, p.put a (q.put b s) = q.put b (p.put a s)

end Facet

/-- Facets that have different names and do not touch each other. -/
def Layout (facets : List (Facet σ)) : Prop :=
  facets.Pairwise fun p q => p.name ≠ q.name ∧ p.Apart q

section

variable {facets : List (Facet σ)} {p q : Facet σ}

/-- Two facets of a layout are the same or do not touch each other. -/
theorem Layout.eq_or_apart (h : Layout facets) (hp : p ∈ facets) (hq : q ∈ facets) :
    p = q ∨ p.name ≠ q.name ∧ p.Apart q := by
  refine List.Pairwise.forall_of_forall_of_flip
    (R := fun p q => p = q ∨ p.name ≠ q.name ∧ p.Apart q) (fun p _ => .inl rfl) (h.imp .inr)
    (h.imp fun hpq => ?_) hp hq
  exact .inr ⟨hpq.1.symm, fun a b s => (hpq.2 b a s).symm⟩

theorem Layout.nodup (h : Layout facets) : (facets.map Facet.name).Nodup :=
  List.pairwise_map.2 (h.imp And.left)

theorem Layout.find?_of_mem (h : Layout facets) (hp : p ∈ facets) :
    (facets.map Facet.field).find? (·.name == p.name) = some p.field := by
  have hnodup : ((facets.map Facet.field).map (·.name)).Nodup := by
    rw [List.map_map]
    exact h.nodup
  exact find?_field hnodup (List.mem_map_of_mem hp)

theorem find?_eq_none {n : String} (hn : n ∉ facets.map Facet.name) :
    (facets.map Facet.field).find? (·.name == n) = none := by
  rw [List.find?_eq_none]
  intro f hf heq
  obtain ⟨p, hp, rfl⟩ := List.mem_map.1 hf
  exact hn (List.mem_map.2 ⟨p, hp, eq_of_beq heq⟩)

end

/-- The members turn the record `s` into `s'`, where the facets named by `seen` are set already. -/
inductive Sets (facets : List (Facet σ)) : List String → σ → List (Key × Document) → σ → Prop
  | nil {seen : List String} {s : σ} : Sets facets seen s [] s
  | known {seen : List String} {s s' : σ} {p : Facet σ} {n : String} {d : Document} {a : p.α}
      {ms : List (Key × Document)} (hp : p ∈ facets) (hn : p.name = n) (hseen : n ∉ seen)
      (hread : p.read d = .ok a) (h : Sets facets (n :: seen) (p.put a s) ms s') :
      Sets facets seen s ((.name n, d) :: ms) s'
  | unknown {seen : List String} {s s' : σ} {n : String} {d : Document}
      {ms : List (Key × Document)} (hn : n ∉ facets.map Facet.name) (hpass : passFault? d = none)
      (h : Sets facets seen s ms s') : Sets facets seen s ((.name n, d) :: ms) s'

section

variable {facets : List (Facet σ)} {seen : List String} {s s' : σ} {ms : List (Key × Document)}

/-- The members of an accepted object are told by `Sets`. -/
theorem setMembers_eq_ok_iff (hfacets : Layout facets) :
    setMembers (facets.map Facet.field) seen s ms = .ok s' ↔ Sets facets seen s ms s' := by
  constructor
  · intro h
    fun_induction setMembers (facets.map Facet.field) seen s ms with
    | case1 =>
      cases h
      exact .nil
    | case3 seen s n d ms field hfind hseen ih =>
      obtain ⟨p, hp, rfl⟩ := List.mem_map.1 (List.mem_of_find?_eq_some hfind)
      have hn : p.name = n := by simpa [Facet.field, Field.of] using List.find?_some hfind
      obtain ⟨t, hset, hrest⟩ := exists_of_bind_eq_ok h
      obtain ⟨a, hread, rfl⟩ := exists_of_map_eq_ok hset
      exact .known hp hn hseen hread (ih _ hrest)
    | case5 seen s n d ms hfind hpass ih =>
      refine .unknown (fun hn => ?_) hpass (ih h)
      obtain ⟨p, hp, rfl⟩ := List.mem_map.1 hn
      rw [hfacets.find?_of_mem hp] at hfind
      cases hfind
    | case2 | case4 | case6 | case7 => cases h
  · intro h
    induction h with
    | nil => rfl
    | @known seen s s' p n d a ms hp hn hseen hread h ih =>
      subst hn
      have hset : p.field.set d s = .ok (p.put a s) := by
        show (p.read d).map (fun a => p.put a s) = .ok (p.put a s)
        rw [hread, Except.map]
      simp only [setMembers, hfacets.find?_of_mem hp, if_neg hseen, hset]
      exact ih
    | unknown hn hpass h ih =>
      simp only [setMembers, find?_eq_none hn, hpass]
      exact ih

namespace Sets

/-- The outcome is the members' alone. -/
theorem unique (hfacets : Layout facets) {t : σ} (h : Sets facets seen s ms s')
    (ht : Sets facets seen s ms t) : s' = t :=
  Except.ok.inj
    (((setMembers_eq_ok_iff hfacets).2 h).symm.trans ((setMembers_eq_ok_iff hfacets).2 ht))

/-- Whether a facet counts as set already matters to the members of its name alone. -/
theorem of_seen (h : Sets facets seen s ms s') {other : List String}
    (hother : ∀ m ∈ ms, ∀ n ∈ other, m.1 = .name n → n ∈ seen) : Sets facets other s ms s' := by
  induction h generalizing other with
  | nil => exact .nil
  | @known seen s s' p n d a ms hp hn hseen hread h ih =>
    refine .known hp hn (fun hmem => hseen (hother _ List.mem_cons_self n hmem rfl)) hread
      (ih fun m hm n' hn' hname => ?_)
    rcases List.mem_cons.1 hn' with rfl | hn'
    · exact List.mem_cons_self
    · exact List.mem_cons_of_mem _ (hother m (List.mem_cons_of_mem _ hm) n' hn' hname)
  | unknown hn hpass h ih =>
    exact .unknown hn hpass (ih fun m hm => hother m (List.mem_cons_of_mem _ hm))

theorem of_subset (h : Sets facets seen s ms s') {fewer : List String} (hsub : fewer ⊆ seen) :
    Sets facets fewer s ms s' :=
  h.of_seen fun _ _ _ hn _ => hsub hn

/-- A facet that is set already, and so not set by the members, may as well be put in after them. -/
theorem put (hfacets : Layout facets) {p : Facet σ} (hp : p ∈ facets) (a : p.α)
    (h : Sets facets seen s ms s') (hseen : p.name ∈ seen) :
    Sets facets seen (p.put a s) ms (p.put a s') := by
  induction h with
  | nil => exact .nil
  | @known seen s s' q n d b ms hq hn hnew hread h ih =>
    have hne : q ≠ p := by
      rintro rfl
      exact hnew (hn ▸ hseen)
    obtain rfl | ⟨-, hapart⟩ := hfacets.eq_or_apart hq hp
    · exact absurd rfl hne
    · have hrest := ih (List.mem_cons_of_mem _ hseen)
      rw [← hapart] at hrest
      exact .known hq hn hnew hread hrest
  | unknown hn hpass h ih => exact .unknown hn hpass (ih hseen)

/-- Two members next to each other may change places. -/
theorem swap (hfacets : Layout facets) {m m' : Key × Document}
    (h : Sets facets seen s (m :: m' :: ms) s') : Sets facets seen s (m' :: m :: ms) s' := by
  cases h with
  | @known _ _ _ p n d a _ hp hn hseen hread h =>
    cases h with
    | @known _ _ _ q n' d' b _ hq hn' hseen' hread' h =>
      obtain ⟨hne, hold⟩ := not_or.1 (mt List.mem_cons.2 hseen')
      obtain rfl | ⟨-, hapart⟩ := hfacets.eq_or_apart hq hp
      · exact absurd (hn'.symm.trans hn) hne
      · rw [hapart] at h
        refine .known hq hn' hold hread' (.known hp hn ?_ hread (h.of_subset ?_))
        · exact mt List.mem_cons.1 (not_or.2 ⟨Ne.symm hne, hseen⟩)
        · intro m hm
          simp only [List.mem_cons] at hm ⊢
          exact or_left_comm.1 hm
    | unknown hn' hpass h => exact .unknown hn' hpass (.known hp hn hseen hread h)
  | unknown hn hpass h =>
    cases h with
    | known hp hn' hseen hread h => exact .known hp hn' hseen hread (.unknown hn hpass h)
    | unknown hn' hpass' h => exact .unknown hn' hpass' (.unknown hn hpass h)

/-- Every member has a name. -/
theorem named (h : Sets facets seen s ms s') : ∀ m ∈ ms, ∃ n, m.1 = .name n := by
  induction h with
  | nil => nofun
  | known _ _ _ _ _ ih => exact List.forall_mem_cons.2 ⟨⟨_, rfl⟩, ih⟩
  | unknown _ _ _ ih => exact List.forall_mem_cons.2 ⟨⟨_, rfl⟩, ih⟩

/-- Members may be moved. -/
theorem perm (hfacets : Layout facets) {ms' : List (Key × Document)} (hperm : ms.Perm ms')
    (h : Sets facets seen s ms s') : Sets facets seen s ms' s' := by
  induction hperm generalizing seen s with
  | nil => exact h
  | cons m hperm ih =>
    cases h with
    | known hp hn hseen hread h => exact .known hp hn hseen hread (ih h)
    | unknown hn hpass h => exact .unknown hn hpass (ih h)
  | swap m m' ms => exact h.swap hfacets
  | trans _ _ ih ih' => exact ih' (ih h)

variable {p : Facet σ} {d : Document}

/-- A known member puts in the value it is read as, at the end as well as in its place. -/
theorem exists_value (hfacets : Layout facets) (hp : p ∈ facets)
    (h : Sets facets seen s ((.name p.name, d) :: ms) s') :
    ∃ a, p.read d = .ok a ∧ Sets facets (p.name :: seen) (p.put a s) ms s' ∧ s' = p.put a s' := by
  cases h with
  | @known _ _ _ q _ _ a _ hq hn hseen hread h =>
    obtain rfl | ⟨hne, -⟩ := hfacets.eq_or_apart hq hp
    · have hput := h.put hfacets hp a List.mem_cons_self
      rw [q.put_put] at hput
      exact ⟨a, hread, h, h.unique hfacets hput⟩
    · exact absurd hn hne
  | unknown hn => exact absurd (List.mem_map_of_mem hp) hn

/-- Without a known member its facet is as it was at the start, and all others are as they were with
it. -/
theorem reset (hfacets : Layout facets) (hp : p ∈ facets)
    (h : Sets facets seen s ((.name p.name, d) :: ms) s') :
    Sets facets seen s ms (p.reset s s') := by
  obtain ⟨a, -, hrest, -⟩ := h.exists_value hfacets hp
  have hput := hrest.put hfacets hp (p.get s) List.mem_cons_self
  rw [p.put_put, p.put_get] at hput
  exact hput.of_subset (List.subset_cons_self _ _)

/-- Another value in the place of a known member's is put in instead. -/
theorem replace (hfacets : Layout facets) (hp : p ∈ facets)
    (h : Sets facets seen s ((.name p.name, d) :: ms) s') {d' : Document} {b : p.α}
    (hread : p.read d' = .ok b) : Sets facets seen s ((.name p.name, d') :: ms) (p.put b s') := by
  obtain ⟨a, -, hrest, -⟩ := h.exists_value hfacets hp
  have hput := hrest.put hfacets hp b List.mem_cons_self
  rw [p.put_put] at hput
  have hseen : p.name ∉ seen := by
    cases h with
    | known _ _ hseen => exact hseen
    | unknown hn => exact absurd (List.mem_map_of_mem hp) hn
  exact .known hp rfl hseen hread hput

/-- A known member may be left out if it puts in what its facet is at the start. -/
theorem vacant_iff (hfacets : Layout facets) (hp : p ∈ facets) (hread : p.read d = .ok (p.get s))
    (habsent : ∀ m ∈ ms, m.1 ≠ .name p.name) (hseen : p.name ∉ seen) :
    Sets facets seen s ((.name p.name, d) :: ms) s' ↔ Sets facets seen s ms s' := by
  constructor
  · intro h
    obtain ⟨a, ha, -, hs'⟩ := h.exists_value hfacets hp
    obtain rfl : p.get s = a := Except.ok.inj (hread.symm.trans ha)
    have hreset := h.reset hfacets hp
    rwa [Facet.reset, ← hs'] at hreset
  · intro h
    refine .known hp rfl hseen hread ?_
    rw [p.put_get]
    refine h.of_seen fun m hm n hn hname => ?_
    rcases List.mem_cons.1 hn with rfl | hn
    · exact absurd hname (habsent m hm)
    · exact hn

end Sets

end

end Resilience.Document
