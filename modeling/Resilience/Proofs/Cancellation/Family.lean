import Mathlib.Logic.Relation
import Mathlib.Order.Bounds.Basic
import Resilience.Proofs.Cancellation.Waits

/-!
# Handles made from one another

A `Cancellation.Family` is a number of handles and the clock. Of each handle it keeps how it was
made, and of all of them which ones were cancelled, so that what a handle has to say can be told
from its history alone. A handle ends with those that share its token or that of a handle above it
(`Family.Governs`), and has the deadlines that were attached to it and to the handles above it
(`Family.Attached`).

Every deed makes one handle, cancels one or moves the clock (`Family.act_cases`), and the tokens and
deadlines of all handles stay faithful to their history (`Family.Faithful`) : each token and each
deadline comes from the handle that the history names, no number is given out twice, and what is
called off stands below something that was cancelled.
-/

namespace Resilience

theorem Time.earlier_none (t? : Option Nat) : earlier t? none = t? := by
  cases t? <;> rfl

theorem Time.eq_or_eq_of_earlier {t? u? : Option Nat} {d : Nat} (h : earlier t? u? = some d) :
    t? = some d ∨ u? = some d := by
  cases t? with
  | none => exact .inr h
  | some t =>
    cases u? with
    | none => exact .inl h
    | some u =>
      cases h
      rcases Nat.le_total t u with hle | hle
      · exact .inl (by rw [Nat.min_eq_left hle])
      · exact .inr (by rw [Nat.min_eq_right hle])

/-- The earlier of two ends is not later than either. -/
theorem Time.earlier_le {t? u? : Option Nat} {d : Nat} (h : t? = some d ∨ u? = some d) :
    ∃ e, earlier t? u? = some e ∧ e ≤ d := by
  rcases h with rfl | rfl
  · cases u? with
    | none => exact ⟨d, rfl, Nat.le_refl d⟩
    | some u => exact ⟨_, rfl, Nat.min_le_left d u⟩
  · cases t? with
    | none => exact ⟨d, rfl, Nat.le_refl d⟩
    | some t => exact ⟨_, rfl, Nat.min_le_right t d⟩

namespace Cancellation

/-! ## Handles and what is done with them -/

/-- A handle and how it was made. -/
structure Member where
  handle : Cancellation
  /-- The handle it was made from, if any. -/
  source? : Option Nat := none
  /-- Whether it was given a token of its own. -/
  ownsToken : Bool := false
  /-- The deadline that was attached to it. -/
  attached? : Option Nat := none
deriving DecidableEq, Repr

/-- What is done with handles, each of which goes by its number. -/
inductive Deed where
  | new
  | clone (handle : Nat)
  | child (handle : Nat)
  | withDeadline (handle t : Nat)
  | withTimeout (handle d : Nat)
  | cancel (handle : Nat)
  | passage (d : Nat)
deriving DecidableEq, Repr

/-- Whether it makes a handle and does nothing else. -/
def Deed.isMaking : Deed → Bool
  | cancel _ | passage _ => false
  | _ => true

/-- Handles in the order in which they were made, and the numbers of those that were cancelled. -/
structure Family where
  now : Nat
  tokens : Tokens := {}
  members : List Member := []
  cancelled : List Nat := []
deriving DecidableEq, Repr

namespace Family

/-- No handle yet. -/
def opened (start : Nat) : Family := { now := start }

/-- The handle of this number, if there is one. -/
def handle? (f : Family) (i : Nat) : Option Cancellation := f.members[i]?.map Member.handle

/-- The handle that a deed makes, with the tokens there are then. A timeout that the clock does not
reach is a deadline thirty years from now. -/
def made? (f : Family) : Deed → Option (Member × Tokens)
  | .new => some ({ handle := { token := f.tokens.fresh.1 }, ownsToken := true }, f.tokens.fresh.2)
  | .clone i => (f.handle? i).map fun c => ({ handle := c, source? := some i }, f.tokens)
  | .child i => (f.handle? i).map fun c =>
    ({ handle := (c.child f.tokens).1, source? := some i, ownsToken := true },
      (c.child f.tokens).2)
  | .withDeadline i t => (f.handle? i).map fun c =>
    ({ handle := c.withDeadline t, source? := some i, attached? := some t }, f.tokens)
  | .withTimeout i d => (f.handle? i).map fun c =>
    let t := if f.now + d < Time.limit then f.now + d else f.now + Time.horizon
    ({ handle := c.withTimeout f.now d, source? := some i, attached? := some t }, f.tokens)
  | .cancel _ | .passage _ => none

/-- Another member, and the tokens there are with it. -/
def add (f : Family) (m : Member) (ts : Tokens) : Family :=
  { f with members := f.members ++ [m], tokens := ts }

/-- What is done with a handle that there is not makes no difference. -/
def act (f : Family) : Deed → Family
  | .cancel i =>
    match f.handle? i with
    | some c => { f with tokens := f.tokens.cancel c.token, cancelled := i :: f.cancelled }
    | none => f
  | .passage d => { f with now := f.now + d }
  | d => ((f.made? d).map fun x => f.add x.1 x.2).getD f

/-- One deed after the other. -/
def run (f : Family) (deeds : List Deed) : Family := deeds.foldl act f

/-- Why the handle of this number has ended, if it has. -/
def check (f : Family) (i : Nat) : Option Interruption :=
  (f.handle? i).bind fun c => c.check f.tokens f.now

/-! ## What the history tells -/

/-- The handle `i` was made from `h`. -/
def Source (f : Family) (h i : Nat) : Prop := ∃ m, f.members[i]? = some m ∧ m.source? = some h

/-- The handle `i` was made from `h` with the token of `h`. -/
def Copies (f : Family) (h i : Nat) : Prop :=
  ∃ m, f.members[i]? = some m ∧ m.source? = some h ∧ m.ownsToken = false

/-- The handle `i` was made from `h` with a token of its own. -/
def ChildOf (f : Family) (i h : Nat) : Prop :=
  ∃ m, f.members[i]? = some m ∧ m.source? = some h ∧ m.ownsToken = true

/-- The handle `a` is `i` itself or stands above it. -/
def Above (f : Family) : Nat → Nat → Prop := Relation.ReflTransGen f.Source

/-- Two members share a token if one is a copy of the other, or both of a third. -/
def SharesToken (f : Family) : Nat → Nat → Prop := Relation.EqvGen f.Copies

/-- The handle `j` shares its token with `i` or with a handle above it. -/
def Governs (f : Family) (j i : Nat) : Prop := ∃ a, f.Above a i ∧ f.SharesToken j a

/-- The handle `i` has the token of the handle `h` that `j` is a child of, or the token of another
child of that. -/
def Beside (f : Family) (h j i : Nat) : Prop :=
  f.SharesToken i h ∨
    ∃ h' k, f.SharesToken h' h ∧ f.ChildOf k h' ∧ k ≠ j ∧ f.SharesToken i k

/-- The deadlines attached to the handle `i` and to those above it. -/
def Attached (f : Family) (i : Nat) : Set Nat :=
  {d | ∃ a m, f.Above a i ∧ f.members[a]? = some m ∧ m.attached? = some d}

theorem check_eq {f : Family} {i : Nat} {m : Member} (hm : f.members[i]? = some m) :
    f.check i = m.handle.check f.tokens f.now := by
  simp [check, handle?, hm]

/-! ## What a deed does -/

/-- What the handle of number `i` has from the one it was made from, which is older : its token or
one below that, and its deadline or an earlier one. -/
inductive Stems (f : Family) (i : Nat) : Member → Prop
  | anew (n : Nat) : f.Stems i ⟨⟨⟨[n]⟩, none⟩, none, true, none⟩
  | copy {h m} (t? : Option Nat) : h < i → f.members[h]? = some m →
      f.Stems i ⟨⟨m.handle.token, Time.earlier m.handle.deadline? t?⟩, some h, false, t?⟩
  | child {h m} (n : Nat) : h < i → f.members[h]? = some m →
      f.Stems i ⟨⟨⟨n :: m.handle.token.lineage⟩, m.handle.deadline?⟩, some h, true, none⟩

/-- A handle that is new, with the tokens that there are then. -/
structure Makes (f : Family) (m : Member) (ts : Tokens) : Prop where
  stems : f.Stems f.members.length m
  cancelled_eq : ts.cancelled = f.tokens.cancelled
  next_le : f.tokens.next ≤ ts.next
  own : m.ownsToken = true →
    m.handle.token.lineage.head? = some f.tokens.next ∧ f.tokens.next < ts.next

/-- A timeout is the deadline so far from now, or thirty years from now beyond the clock. -/
theorem withTimeout_eq (c : Cancellation) (now d : Nat) : c.withTimeout now d =
    c.withDeadline (if now + d < Time.limit then now + d else now + Time.horizon) := by
  unfold withTimeout Time.after Time.after?
  split <;> rfl

section Deeds

variable {f : Family} {i : Nat}

theorem exists_of_map_handle? {α : Type} {g : Cancellation → α} {x : α}
    (h : (f.handle? i).map g = some x) :
    ∃ m, i < f.members.length ∧ f.members[i]? = some m ∧ g m.handle = x := by
  obtain ⟨_, hc, hx⟩ := Option.map_eq_some_iff.1 h
  obtain ⟨m, hm, rfl⟩ := Option.map_eq_some_iff.1 hc
  exact ⟨m, (List.getElem?_eq_some_iff.1 hm).1, hm, hx⟩

theorem makes_copy {m : Member} (hi : i < f.members.length) (hm : f.members[i]? = some m)
    (t? : Option Nat) :
    f.Makes ⟨⟨m.handle.token, Time.earlier m.handle.deadline? t?⟩, some i, false, t?⟩ f.tokens :=
  ⟨.copy t? hi hm, rfl, Nat.le_refl _, Bool.noConfusion⟩

/-- Whatever handle a deed makes is new and stems from those there are. -/
theorem makes_of_made? {d : Deed} {m : Member} {ts : Tokens} (h : f.made? d = some (m, ts)) :
    f.Makes m ts := by
  cases d with
  | new =>
    cases h
    exact ⟨.anew _, rfl, Nat.le_succ _, fun _ => ⟨rfl, Nat.lt_succ_self _⟩⟩
  | clone i =>
    obtain ⟨m₀, hi, hm₀, ⟨⟩⟩ := exists_of_map_handle? h
    have hcopy := makes_copy hi hm₀ none
    rwa [Time.earlier_none] at hcopy
  | child i =>
    obtain ⟨m₀, hi, hm₀, ⟨⟩⟩ := exists_of_map_handle? h
    exact ⟨.child _ hi hm₀, rfl, Nat.le_succ _, fun _ => ⟨rfl, Nat.lt_succ_self _⟩⟩
  | withDeadline i t =>
    obtain ⟨m₀, hi, hm₀, ⟨⟩⟩ := exists_of_map_handle? h
    exact makes_copy hi hm₀ (some t)
  | withTimeout i d =>
    obtain ⟨m₀, hi, hm₀, ⟨⟩⟩ := exists_of_map_handle? h
    rw [withTimeout_eq]
    exact makes_copy hi hm₀ _
  | cancel _ | passage _ => cases h

/-- A deed that makes a handle adds it and changes nothing else. -/
theorem act_of_isMaking {d : Deed} (h : d.isMaking = true) :
    f.act d = ((f.made? d).map fun x => f.add x.1 x.2).getD f := by
  cases d with
  | new | clone _ | child _ | withDeadline _ _ | withTimeout _ _ => rfl
  | cancel _ | passage _ => cases h

/-- All that can be done : a handle is made, one is cancelled, or the clock moves. -/
theorem act_cases (f : Family) (d : Deed) :
    f.act d = f ∨ (∃ m ts, d.isMaking = true ∧ f.Makes m ts ∧ f.act d = f.add m ts) ∨
      (∃ i m, d = .cancel i ∧ f.members[i]? = some m ∧ f.act d =
        { f with tokens := f.tokens.cancel m.handle.token, cancelled := i :: f.cancelled }) ∨
      ∃ t, d = .passage t ∧ f.act d = { f with now := f.now + t } := by
  cases hmaking : d.isMaking with
  | true =>
    rw [act_of_isMaking hmaking]
    cases hmade : f.made? d with
    | none => exact .inl rfl
    | some x => exact .inr (.inl ⟨x.1, x.2, rfl, makes_of_made? hmade, rfl⟩)
  | false =>
    cases d with
    | new | clone _ | child _ | withDeadline _ _ | withTimeout _ _ => cases hmaking
    | passage t => exact .inr (.inr (.inr ⟨t, rfl, rfl⟩))
    | cancel i =>
      simp only [act, handle?]
      cases hm : f.members[i]? with
      | none => exact .inl rfl
      | some m => exact .inr (.inr (.inl ⟨i, m, rfl, hm, rfl⟩))

end Deeds

/-! ## Faithful to the history -/

/-- The handle `i` was given a token of its own, of number `n`. -/
def Owns (f : Family) (i n : Nat) : Prop :=
  ∃ m, f.members[i]? = some m ∧ m.ownsToken = true ∧ m.handle.token.lineage.head? = some n

/-- Every handle is what its history says, the numbers of tokens are given out once, and the tokens
that are called off are those of the handles that were cancelled and the tokens below. -/
structure Faithful (f : Family) : Prop where
  stems : ∀ (i : Nat) (m : Member), f.members[i]? = some m → f.Stems i m
  issued : ∀ (i : Nat) (m : Member), f.members[i]? = some m →
    ∀ n ∈ m.handle.token.lineage, n < f.tokens.next
  owner_eq : ∀ i j n, f.Owns i n → f.Owns j n → i = j
  cancelled_lt : ∀ j ∈ f.cancelled, j < f.members.length
  calledOff : ∀ t, f.tokens.isCancelled t = true ↔
    ∃ j ∈ f.cancelled, ∃ m : Member, f.members[j]? = some m ∧ m.handle.token.CallsOff t

/-- Where a handle stems from is not changed by those that come later. -/
theorem Stems.mono {f g : Family} {i : Nat} {m : Member} (h : f.Stems i m)
    (hkept : ∀ (j : Nat) (m : Member), f.members[j]? = some m → g.members[j]? = some m) :
    g.Stems i m := by
  cases h with
  | anew n => exact .anew n
  | copy t? hlt hm => exact .copy t? hlt (hkept _ _ hm)
  | child n hlt hm => exact .child n hlt (hkept _ _ hm)

/-- The first handle is faithful to the history in which nothing has happened. -/
theorem faithful_opened (start : Nat) : (opened start).Faithful where
  stems i m h := by simp [opened] at h
  issued i m h := by simp [opened] at h
  owner_eq i j n h := by simp [opened, Owns] at h
  cancelled_lt j h := by simp [opened] at h
  calledOff t := by simp [opened, Tokens.isCancelled]

section Add

variable {f : Family} {m : Member} {ts : Tokens} {i n : Nat}

theorem members_add_of_lt (hi : i < f.members.length) :
    (f.add m ts).members[i]? = f.members[i]? :=
  List.getElem?_append_left hi

theorem members_add_of_some {m₀ : Member} (h : f.members[i]? = some m₀) :
    (f.add m ts).members[i]? = some m₀ := by
  rw [members_add_of_lt (List.getElem?_eq_some_iff.1 h).1, h]

/-- A handle is the new one or was there before. -/
theorem members_add_eq_some {m₀ : Member} (h : (f.add m ts).members[i]? = some m₀) :
    f.members[i]? = some m₀ ∨ i = f.members.length ∧ m = m₀ := by
  rcases Nat.lt_trichotomy i f.members.length with hlt | rfl | hgt
  · rw [members_add_of_lt hlt] at h
    exact .inl h
  · exact .inr ⟨rfl, by simpa [add] using h⟩
  · simp only [add] at h
    rw [List.getElem?_eq_none (by simp; omega)] at h
    cases h

namespace Faithful

/-- One more handle leaves the family faithful. -/
theorem add (h : f.Faithful) (hm : f.Makes m ts) : (f.add m ts).Faithful where
  stems i m₀ hi := by
    rcases members_add_eq_some hi with hold | ⟨rfl, rfl⟩
    · exact (h.stems i m₀ hold).mono fun _ _ => members_add_of_some
    · exact hm.stems.mono fun _ _ => members_add_of_some
  issued i m₀ hi n hn := by
    have hkept : ∀ {i : Nat} {m₀ : Member}, f.members[i]? = some m₀ →
        n ∈ m₀.handle.token.lineage → n < ts.next :=
      fun hi hn => Nat.lt_of_lt_of_le (h.issued _ _ hi n hn) hm.next_le
    rcases members_add_eq_some hi with hold | ⟨rfl, rfl⟩
    · exact hkept hold hn
    · have hown := hm.own
      cases hm.stems with
      | anew k =>
        obtain ⟨hhead, hlt⟩ := hown rfl
        rw [List.mem_singleton.1 hn]
        exact Option.some.inj hhead ▸ hlt
      | copy t? _ hsource => exact hkept hsource hn
      | child k _ hsource =>
        obtain ⟨hhead, hlt⟩ := hown rfl
        rcases List.mem_cons.1 hn with rfl | hn
        · exact Option.some.inj hhead ▸ hlt
        · exact hkept hsource hn
  owner_eq i j n hi hj := by
    -- the number of the new handle is one that no other handle can have
    have hold : ∀ {i}, f.Owns i n → n < f.tokens.next := fun ⟨m₀, hm₀, _, hhead⟩ =>
      h.issued _ m₀ hm₀ n (List.mem_of_head? hhead)
    have hcases : ∀ {i}, (f.add m ts).Owns i n →
        f.Owns i n ∨ i = f.members.length ∧ n = f.tokens.next := by
      rintro i ⟨m₀, hm₀, hown, hhead⟩
      rcases members_add_eq_some hm₀ with hm₀ | ⟨rfl, rfl⟩
      · exact .inl ⟨m₀, hm₀, hown, hhead⟩
      · exact .inr ⟨rfl, Option.some.inj (hhead.symm.trans (hm.own hown).1)⟩
    rcases hcases hi with hi | ⟨rfl, hn⟩ <;> rcases hcases hj with hj | ⟨rfl, hn'⟩
    · exact h.owner_eq i j n hi hj
    · exact absurd (hold hi) (by omega)
    · exact absurd (hold hj) (by omega)
    · rfl
  cancelled_lt j hj := by
    have := h.cancelled_lt j hj
    simp only [Family.add, List.length_append, List.length_singleton]
    omega
  calledOff t := by
    have hsame : ts.isCancelled t = f.tokens.isCancelled t := by
      simp only [Tokens.isCancelled, hm.cancelled_eq]
    show ts.isCancelled t = true ↔ _
    rw [hsame, h.calledOff]
    constructor
    · rintro ⟨j, hj, m₀, hm₀, hoff⟩
      exact ⟨j, hj, m₀, members_add_of_some hm₀, hoff⟩
    · rintro ⟨j, hj, m₀, hm₀, hoff⟩
      rw [members_add_of_lt (h.cancelled_lt j hj)] at hm₀
      exact ⟨j, hj, m₀, hm₀, hoff⟩

theorem cancel (h : f.Faithful) (hm : f.members[i]? = some m) :
    Faithful { f with
      tokens := f.tokens.cancel m.handle.token, cancelled := i :: f.cancelled } where
  stems j m₀ hj := (h.stems j m₀ hj).mono fun _ _ => id
  issued j m₀ hj n hn := by
    rw [Tokens.cancel_eq]
    exact h.issued j m₀ hj n hn
  owner_eq := h.owner_eq
  cancelled_lt j hj := by
    rcases List.mem_cons.1 hj with rfl | hj
    · exact (List.getElem?_eq_some_iff.1 hm).1
    · exact h.cancelled_lt j hj
  calledOff t := by
    have hone : (∃ m₀, f.members[i]? = some m₀ ∧ m₀.handle.token.CallsOff t) ↔
        m.handle.token.CallsOff t := by
      simp [hm]
    simp only [Tokens.isCancelled_cancel_iff, h.calledOff, List.mem_cons, exists_eq_or_imp, hone]
    exact or_comm

theorem act (h : f.Faithful) (d : Deed) : (f.act d).Faithful := by
  rcases f.act_cases d with heq | ⟨m, ts, -, hm, heq⟩ | ⟨i, m, -, hm, heq⟩ | ⟨t, -, heq⟩ <;>
    rw [heq]
  · exact h
  · exact h.add hm
  · exact h.cancel hm
  · exact ⟨fun i m hi => (h.stems i m hi).mono fun _ _ => id, h.issued, h.owner_eq,
      h.cancelled_lt, h.calledOff⟩

/-- A family is faithful to its history, whatever is done in it. -/
theorem run (h : f.Faithful) (deeds : List Deed) : (f.run deeds).Faithful :=
  deeds.foldlRecOn Family.act h fun _ h d _ => h.act d

end Faithful

end Add

end Family

end Cancellation

end Resilience
