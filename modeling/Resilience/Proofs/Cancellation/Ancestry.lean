import Resilience.Proofs.Cancellation.Family

/-!
# What a handle has from those above it

A handle has its token, or one below it, from the handle it was made from, and its deadline, or an
earlier one (`Family.Inherits`). Along the line of those above it this gives back the history : a
handle is called off with exactly those that govern it (`Family.Faithful.governs_iff`), and its
deadline is the least of those attached (`Family.Faithful.deadline_eq_some_iff`). So a check tells
the history (`Family.check_tells_history`).

Every deed leaves the handles as they are and what has ended ended (`Family.Precedes`).
-/

namespace Resilience.Cancellation.Family

/-! ## What a handle has from those above it -/

/-- The token of `m` is that of `m₀` or below it, and its deadline is no later. -/
structure Inherits (m₀ m : Member) : Prop where
  lineage : m₀.handle.token.lineage <:+ m.handle.token.lineage
  deadline : ∀ d, m₀.handle.deadline? = some d → ∃ e, m.handle.deadline? = some e ∧ e ≤ d

theorem Inherits.refl (m : Member) : Inherits m m :=
  ⟨List.suffix_refl _, fun d hd => ⟨d, hd, Nat.le_refl d⟩⟩

theorem Inherits.trans {m₀ m m' : Member} (h : Inherits m₀ m) (h' : Inherits m m') :
    Inherits m₀ m' := by
  refine ⟨h.lineage.trans h'.lineage, fun d hd => ?_⟩
  obtain ⟨e, he, hle⟩ := h.deadline d hd
  obtain ⟨e', he', hle'⟩ := h'.deadline e he
  exact ⟨e', he', Nat.le_trans hle' hle⟩

/-- Where a handle has not ended, neither have those it inherits from. -/
theorem Inherits.check_eq_none {m₀ m : Member} (h : Inherits m₀ m) {ts : Tokens} {now : Nat}
    (hlive : m.handle.check ts now = none) : m₀.handle.check ts now = none := by
  obtain ⟨htoken, hdeadline⟩ := Cancellation.check_eq_none_iff.1 hlive
  refine Cancellation.check_eq_none_iff.2 ⟨?_, fun d hd => ?_⟩
  · simp only [Tokens.isCancelled, List.any_eq_false] at htoken ⊢
    exact fun n hn => htoken n (h.lineage.subset hn)
  · obtain ⟨e, he, hle⟩ := h.deadline d hd
    exact Nat.lt_of_lt_of_le (hdeadline e he) hle

namespace Faithful

variable {f : Family} (hf : f.Faithful) {a i j n d : Nat} {m : Member}
include hf

theorem of_source (h : f.Source a i) (hm : f.members[i]? = some m) :
    a < i ∧ ∃ m₀, f.members[a]? = some m₀ ∧ Inherits m₀ m := by
  obtain ⟨_, hm', hsource⟩ := h
  obtain rfl := Option.some.inj (hm'.symm.trans hm)
  cases hf.stems i _ hm with
  | anew => cases hsource
  | copy t? hlt hm₀ =>
    cases hsource
    exact ⟨hlt, _, hm₀, List.suffix_refl _, fun d hd => Time.earlier_le (.inl hd)⟩
  | child n hlt hm₀ =>
    cases hsource
    exact ⟨hlt, _, hm₀, List.suffix_cons _ _, fun d hd => ⟨d, hd, Nat.le_refl d⟩⟩

/-- Whatever is above a handle was made no later, and the handle inherits from it. -/
theorem of_above (h : f.Above a i) (hm : f.members[i]? = some m) :
    a ≤ i ∧ ∃ m₀, f.members[a]? = some m₀ ∧ Inherits m₀ m := by
  induction h generalizing m with
  | refl => exact ⟨Nat.le_refl a, m, hm, .refl m⟩
  | tail _ hsource ih =>
    obtain ⟨hlt, m₁, hm₁, hinherits⟩ := hf.of_source hsource hm
    obtain ⟨hle, m₀, hm₀, hinherits₀⟩ := ih hm₁
    exact ⟨by omega, m₀, hm₀, hinherits₀.trans hinherits⟩

/-! ### Tokens -/

/-- Every number in the lineage of a token belongs to a handle above. -/
theorem exists_owner (hm : f.members[i]? = some m) (hn : n ∈ m.handle.token.lineage) :
    ∃ a, f.Above a i ∧ f.Owns a n := by
  induction i using Nat.strong_induction_on generalizing m with
  | _ i ih =>
    cases hf.stems i m hm with
    | anew k => exact ⟨i, .refl, _, hm, rfl, by rw [List.mem_singleton.1 hn]; rfl⟩
    | copy t? hlt hm₀ =>
      obtain ⟨a, ha, howns⟩ := ih _ hlt hm₀ hn
      exact ⟨a, ha.tail ⟨_, hm, rfl⟩, howns⟩
    | child k hlt hm₀ =>
      rcases List.mem_cons.1 hn with rfl | hn
      · exact ⟨i, .refl, _, hm, rfl, rfl⟩
      · obtain ⟨a, ha, howns⟩ := ih _ hlt hm₀ hn
        exact ⟨a, ha.tail ⟨_, hm, rfl⟩, howns⟩

/-- Every token was given to a handle with which it is shared. -/
theorem exists_sharing_owner (hm : f.members[i]? = some m) :
    ∃ a n, f.SharesToken a i ∧ f.Owns a n ∧ m.handle.token.lineage.head? = some n := by
  induction i using Nat.strong_induction_on generalizing m with
  | _ i ih =>
    cases hf.stems i m hm with
    | anew k => exact ⟨i, k, .refl i, ⟨_, hm, rfl, rfl⟩, rfl⟩
    | copy t? hlt hm₀ =>
      obtain ⟨a, n, hshares, howns, hhead⟩ := ih _ hlt hm₀
      exact ⟨a, n, hshares.trans _ _ _ (.rel _ _ ⟨_, hm, rfl, rfl⟩), howns, hhead⟩
    | child k hlt hm₀ => exact ⟨i, k, .refl i, ⟨_, hm, rfl, rfl⟩, rfl⟩

/-- Handles that share a token do have the same one. -/
theorem token_eq_of_shares (h : f.SharesToken i j) :
    (f.handle? i).map Cancellation.token = (f.handle? j).map Cancellation.token := by
  induction h with
  | rel i j h =>
    obtain ⟨m, hm, hsource, hown⟩ := h
    cases hf.stems j m hm with
    | anew => cases hsource
    | copy t? hlt hm₀ =>
      cases hsource
      simp [handle?, hm, hm₀]
    | child => cases hown
  | refl => rfl
  | symm _ _ _ ih => exact ih.symm
  | trans _ _ _ _ _ ih ih' => exact ih.trans ih'

/-- A handle governs another one exactly if its token calls the other one's off. -/
theorem governs_iff (hm : f.members[i]? = some m) : f.Governs j i ↔
    ∃ m', f.members[j]? = some m' ∧ m'.handle.token.CallsOff m.handle.token := by
  constructor
  · rintro ⟨a, habove, hshares⟩
    obtain ⟨-, m₀, hm₀, hinherits⟩ := hf.of_above habove hm
    have htoken := hf.token_eq_of_shares hshares
    rw [handle?, handle?, hm₀] at htoken
    obtain ⟨c, hc, htoken⟩ := Option.map_eq_some_iff.1 htoken
    obtain ⟨m', hm', rfl⟩ := Option.map_eq_some_iff.1 hc
    obtain ⟨-, own, -, -, hhead⟩ := hf.exists_sharing_owner hm'
    rw [htoken] at hhead
    exact ⟨m', hm', own, by rw [htoken]; exact hhead,
      hinherits.lineage.subset (List.mem_of_head? hhead)⟩
  · rintro ⟨m', hm', own, hown, hmem⟩
    obtain ⟨a, habove, howns⟩ := hf.exists_owner hm hmem
    obtain ⟨r, n, hshares, howns', hhead⟩ := hf.exists_sharing_owner hm'
    obtain rfl : own = n := Option.some.inj (Eq.trans (Eq.symm hown) hhead)
    obtain rfl := hf.owner_eq a r own howns howns'
    exact ⟨a, habove, hshares.symm⟩

/-- A token is called off exactly if a handle that governs it was cancelled. -/
theorem isCancelled_iff (hm : f.members[i]? = some m) :
    f.tokens.isCancelled m.handle.token = true ↔ ∃ j ∈ f.cancelled, f.Governs j i := by
  simp only [hf.calledOff, hf.governs_iff hm]

/-- What governs a handle and has a token of its own stands above it. -/
theorem above_of_governs {h : Nat} (hchild : f.ChildOf j h) (hm : f.members[i]? = some m)
    (hgoverns : f.Governs j i) : f.Above j i := by
  obtain ⟨m', hm', -, hown⟩ := hchild
  obtain ⟨_, hm'', own, hhead, hmem⟩ := (hf.governs_iff hm).1 hgoverns
  obtain rfl := Option.some.inj (hm'.symm.trans hm'')
  obtain ⟨a, habove, howns⟩ := hf.exists_owner hm hmem
  obtain rfl := hf.owner_eq a j own howns ⟨m', hm', hown, hhead⟩
  exact habove

/-- Whether a handle is governed depends on its token alone. -/
theorem governs_of_shares (hm : f.members[i]? = some m) (h : f.SharesToken i j) {k : Nat}
    (hgoverns : f.Governs k i) : (∃ m, f.members[j]? = some m) ∧ f.Governs k j := by
  have htoken := (hf.token_eq_of_shares h).symm
  rw [handle?, handle?, hm] at htoken
  obtain ⟨c, hc, htoken⟩ := Option.map_eq_some_iff.1 htoken
  obtain ⟨m', hm', rfl⟩ := Option.map_eq_some_iff.1 hc
  rw [hf.governs_iff hm, ← htoken, ← hf.governs_iff hm'] at hgoverns
  exact ⟨⟨m', hm'⟩, hgoverns⟩

/-- A child, and whatever has its token, governs nothing beside it. -/
theorem not_governs_beside {h k : Nat} (hchild : f.ChildOf j h) (hshares : f.SharesToken k j)
    (hbeside : f.Beside h j i) (hm : f.members[i]? = some m) : ¬f.Governs k i := by
  rintro ⟨a, habove, hka⟩
  have hgoverns : f.Governs j i := ⟨a, habove, hshares.symm.trans _ _ _ hka⟩
  -- the parent is older, so that the child does not stand above what has the parent's token
  have hparent : ∀ {h' m'}, f.members[h']? = some m' → f.SharesToken h' h → ¬f.Governs j h' := by
    intro h' m' hm' hh' hg
    obtain ⟨⟨m₀, hm₀⟩, hg⟩ := hf.governs_of_shares hm' hh' hg
    obtain ⟨mj, hmj, hsource, -⟩ := id hchild
    have hle := (hf.of_above (hf.above_of_governs hchild hm₀ hg) hm₀).1
    have hlt := (hf.of_source ⟨mj, hmj, hsource⟩ hmj).1
    omega
  rcases hbeside with hih | ⟨h', k', hh', ⟨m', hm', hsource, -⟩, hne, hik'⟩
  · exact hparent hm hih hgoverns
  · obtain ⟨-, hg⟩ := hf.governs_of_shares hm hik' hgoverns
    rcases Relation.ReflTransGen.cases_tail (hf.above_of_governs hchild hm' hg) with
      rfl | ⟨b, habove, m₁, hm₁, hsource₁⟩
    · exact hne rfl
    · obtain rfl := Option.some.inj (hm'.symm.trans hm₁)
      obtain rfl := Option.some.inj (hsource.symm.trans hsource₁)
      obtain ⟨-, m₀, hm₀, -⟩ := hf.of_source ⟨_, hm', hsource⟩ hm'
      exact hparent hm₀ hh' ⟨j, habove, .refl j⟩

/-! ### Deadlines -/

/-- A handle's deadline was attached to it or to one above it. -/
theorem attached_of_deadline (hm : f.members[i]? = some m) (hd : m.handle.deadline? = some d) :
    d ∈ f.Attached i := by
  induction i using Nat.strong_induction_on generalizing m with
  | _ i ih =>
    have hfrom : ∀ {h}, f.Source h i → d ∈ f.Attached h → d ∈ f.Attached i :=
      fun hsource ⟨a, m', habove, hm', hd'⟩ => ⟨a, m', habove.tail hsource, hm', hd'⟩
    cases hf.stems i m hm with
    | anew => cases hd
    | copy t? hlt hm₀ =>
      rcases Time.eq_or_eq_of_earlier hd with hd | hd
      · exact hfrom ⟨_, hm, rfl⟩ (ih _ hlt hm₀ hd)
      · exact ⟨i, _, .refl, hm, hd⟩
    | child n hlt hm₀ => exact hfrom ⟨_, hm, rfl⟩ (ih _ hlt hm₀ hd)

/-- No deadline is later than one that was attached. -/
theorem exists_le_of_attached (hm : f.members[i]? = some m) (hd : d ∈ f.Attached i) :
    ∃ e, m.handle.deadline? = some e ∧ e ≤ d := by
  obtain ⟨a, m₀, habove, hm₀, hattached⟩ := hd
  obtain ⟨-, m₁, hm₁, hinherits⟩ := hf.of_above habove hm
  obtain rfl := Option.some.inj (hm₀.symm.trans hm₁)
  have hown : ∃ e, m₀.handle.deadline? = some e ∧ e ≤ d := by
    cases hf.stems a m₀ hm₀ with
    | anew | child => cases hattached
    | copy t? => exact Time.earlier_le (.inr hattached)
  obtain ⟨e, he, hle⟩ := hown
  obtain ⟨e', he', hle'⟩ := hinherits.deadline e he
  exact ⟨e', he', hle'.trans hle⟩

/-- The deadline of a handle is the least of those attached to it or above it. -/
theorem deadline_eq_some_iff (hm : f.members[i]? = some m) :
    m.handle.deadline? = some d ↔ IsLeast (f.Attached i) d := by
  constructor
  · intro hd
    refine ⟨hf.attached_of_deadline hm hd, fun d' hd' => ?_⟩
    obtain ⟨e, he, hle⟩ := hf.exists_le_of_attached hm hd'
    obtain rfl := Option.some.inj (hd.symm.trans he)
    exact hle
  · rintro ⟨hattached, hleast⟩
    obtain ⟨e, he, hle⟩ := hf.exists_le_of_attached hm hattached
    rw [he, hle.antisymm (hleast (hf.attached_of_deadline hm he))]

/-! ### Checks -/

/-- A check tells of a cancellation exactly if a handle that governs this one was cancelled. -/
theorem check_eq_cancelled_iff (hm : f.members[i]? = some m) :
    f.check i = some .cancelled ↔ ∃ j ∈ f.cancelled, f.Governs j i := by
  rw [check_eq hm, ← hf.isCancelled_iff hm, Cancellation.check]
  cases f.tokens.isCancelled m.handle.token with
  | true => simp
  | false =>
    simp only [Bool.false_eq_true, if_false, iff_false]
    split <;> simp

/-- A check tells nothing exactly if nobody cancelled it and no deadline has come. -/
theorem check_eq_none_iff (hm : f.members[i]? = some m) : f.check i = none ↔
    (¬∃ j ∈ f.cancelled, f.Governs j i) ∧ ¬∃ d, IsLeast (f.Attached i) d ∧ d ≤ f.now := by
  rw [check_eq hm, Cancellation.check_eq_none_iff, ← hf.isCancelled_iff hm]
  simp only [← hf.deadline_eq_some_iff hm, Bool.not_eq_true, not_exists, not_and, Nat.not_le]

/-- A check tells of the deadline if it has come and nobody cancelled it. -/
theorem check_eq_deadlineExceeded_iff (hm : f.members[i]? = some m) :
    f.check i = some .deadlineExceeded ↔
      (¬∃ j ∈ f.cancelled, f.Governs j i) ∧ ∃ d, IsLeast (f.Attached i) d ∧ d ≤ f.now := by
  have hcancelled := hf.check_eq_cancelled_iff hm
  have hnone := hf.check_eq_none_iff hm
  cases hcheck : f.check i with
  | none => simp_all
  | some reason => cases reason <;> simp_all

/-- What stands below a handle that has ended has ended. -/
theorem check_ne_none_of_above (h : f.Above a i) (hended : f.check a ≠ none) :
    f.check i ≠ none := by
  rcases Relation.ReflTransGen.cases_tail h with rfl | ⟨_, _, m, hm, _⟩
  · exact hended
  · obtain ⟨-, m₀, hm₀, hinherits⟩ := hf.of_above h hm
    rw [check_eq hm₀] at hended
    rw [check_eq hm]
    exact fun hlive => hended (hinherits.check_eq_none hlive)

end Faithful

/-! ## What becomes of the checks -/

/-- What is left in `g` of the handles of `f` : all of them, with what has ended. -/
structure Precedes (f g : Family) : Prop where
  member : ∀ (i : Nat) (m : Member), f.members[i]? = some m → g.members[i]? = some m
  calledOff : ∀ t, f.tokens.isCancelled t = true → g.tokens.isCancelled t = true
  now_le : f.now ≤ g.now

section Later

variable {f g : Family} {i j : Nat} {d : Deed}

/-- Every deed leads on. -/
theorem precedes_act (f : Family) (d : Deed) : f.Precedes (f.act d) := by
  rcases f.act_cases d with heq | ⟨m, ts, -, hm, heq⟩ | ⟨i, m, -, -, heq⟩ | ⟨t, -, heq⟩ <;> rw [heq]
  · exact ⟨fun _ _ => id, fun _ => id, Nat.le_refl _⟩
  · refine ⟨fun _ _ => members_add_of_some, fun t ht => ?_, Nat.le_refl _⟩
    simpa only [add, Tokens.isCancelled, hm.cancelled_eq] using ht
  · exact ⟨fun _ _ => id, fun t ht => Tokens.isCancelled_cancel_iff.2 (.inl ht), Nat.le_refl _⟩
  · exact ⟨fun _ _ => id, fun _ => id, Nat.le_add_right _ _⟩

/-- What has ended stays so. -/
theorem Precedes.check_ne_none (h : f.Precedes g) (hended : f.check i ≠ none) :
    g.check i ≠ none := by
  cases hm : f.members[i]? with
  | none => simp [check, handle?, hm] at hended
  | some m =>
    rw [check_eq hm] at hended
    rw [check_eq (h.member i m hm)]
    intro hlive
    obtain ⟨htoken, hdeadline⟩ := Cancellation.check_eq_none_iff.1 hlive
    refine hended (Cancellation.check_eq_none_iff.2 ⟨?_, fun d hd => ?_⟩)
    · exact Bool.eq_false_iff.2 fun hoff => Bool.eq_false_iff.1 htoken (h.calledOff _ hoff)
    · exact Nat.lt_of_le_of_lt h.now_le (hdeadline d hd)

/-- A handle that has ended never becomes live again. -/
theorem check_run_ne_none (hended : f.check i ≠ none) (deeds : List Deed) :
    (f.run deeds).check i ≠ none :=
  deeds.foldlRecOn (motive := fun g => g.check i ≠ none) act hended
    fun g hg d _ => (precedes_act g d).check_ne_none hg

/-- To make a handle makes no difference to those that there are. -/
theorem check_act_of_isMaking (hi : i < f.members.length) (hd : d.isMaking = true) :
    (f.act d).check i = f.check i := by
  rcases f.act_cases d with heq | ⟨m, ts, -, hmakes, heq⟩ | ⟨i, m, rfl, -, -⟩ | ⟨t, rfl, -⟩
  · rw [heq]
  · have hm : f.members[i]? = some f.members[i] := List.getElem?_eq_getElem hi
    rw [heq, check_eq hm, check_eq (members_add_of_some hm)]
    exact Cancellation.check_congr (by
      simp only [add, Tokens.isCancelled, hmakes.cancelled_eq])
  · cases hd
  · cases hd

/-- To cancel a handle makes no difference to those it does not govern. -/
theorem Faithful.check_act_of_not_governs (hf : f.Faithful)
    (h : ∀ m, f.members[i]? = some m → ¬f.Governs j i) :
    (f.act (.cancel j)).check i = f.check i := by
  rcases f.act_cases (.cancel j) with heq | ⟨m, ts, hmaking, -⟩ | ⟨k, m', hk, hm', heq⟩ | ⟨t, ht, -⟩
  · rw [heq]
  · cases hmaking
  · cases hk
    cases hm : f.members[i]? with
    | none => simp [heq, check, handle?, hm]
    | some m =>
      have hnot : ¬m'.handle.token.CallsOff m.handle.token :=
        fun hoff => h m hm ((hf.governs_iff hm).2 ⟨m', hm', hoff⟩)
      rw [check_eq ((precedes_act f (.cancel j)).member i m hm), check_eq hm, heq]
      refine Cancellation.check_congr ?_
      rw [Bool.eq_iff_iff, Tokens.isCancelled_cancel_iff]
      exact or_iff_left hnot
  · cases ht

end Later

/-- However handles are made from one another and cancelled and time passes, each of them tells by
its check exactly what its history says : that a handle which shares its token or that of a handle
above it was cancelled, or else that the least of the deadlines attached to it and to those above it
has come, or that neither is so. So what is below a handle that has ended has ended too, and what
has ended stays so. To make a handle, with a deadline or without one, makes no difference to the
others. Nor does it to cancel one for those it does not govern ; among these are, for whatever has
the token of a child, the handle that the child was made from and all other children of that. -/
theorem check_tells_history (start : Nat) (deeds : List Deed) :
    let f := (opened start).run deeds
    (∀ i < f.members.length,
      let calledOff := ∃ j ∈ f.cancelled, f.Governs j i
      let late := ∃ d, IsLeast (f.Attached i) d ∧ d ≤ f.now
      (f.check i = some .cancelled ↔ calledOff) ∧
        (f.check i = some .deadlineExceeded ↔ ¬calledOff ∧ late) ∧
        (f.check i = none ↔ ¬calledOff ∧ ¬late)) ∧
      (∀ a i, f.Above a i → f.check a ≠ none → f.check i ≠ none) ∧
      (∀ i later, f.check i ≠ none → (f.run later).check i ≠ none) ∧
      (∀ i < f.members.length, ∀ d : Deed, d.isMaking = true → (f.act d).check i = f.check i) ∧
      (∀ j i, ¬f.Governs j i → (f.act (.cancel j)).check i = f.check i) ∧
      ∀ h j k i, f.ChildOf j h → f.SharesToken k j → f.Beside h j i →
        (f.act (.cancel k)).check i = f.check i := by
  intro f
  have hf : f.Faithful := (faithful_opened start).run deeds
  refine ⟨fun i hi => ?_, fun a i => hf.check_ne_none_of_above, fun i later hended =>
    check_run_ne_none hended later, fun i hi d => check_act_of_isMaking hi,
    fun j i h => hf.check_act_of_not_governs fun _ _ => h,
    fun h j k i hchild hshares hbeside => hf.check_act_of_not_governs fun _ hm =>
      hf.not_governs_beside hchild hshares hbeside hm⟩
  obtain ⟨m, hm⟩ : ∃ m, f.members[i]? = some m := ⟨_, List.getElem?_eq_getElem hi⟩
  exact ⟨hf.check_eq_cancelled_iff hm, hf.check_eq_deadlineExceeded_iff hm,
    hf.check_eq_none_iff hm⟩

/-- A handle with a timeout of a minute has two children, of which the first is copied and the
second has to end within a second. The copy is cancelled, and so the first child with it. -/
theorem check_tells_history_of_cancelled_clone :
    let deeds : List Deed := [.new, .withTimeout 0 (60 * Time.second), .child 1, .clone 2, .child 1,
      .withDeadline 4 Time.second, .cancel 3, .passage (2 * Time.second)]
    let f := (opened 0).run deeds
    (∃ j ∈ f.cancelled, f.Governs j 2) ∧ f.check 1 = none ∧ f.check 4 = none ∧
      (∃ d, IsLeast (f.Attached 5) d ∧ d ≤ f.now) ∧
      (f.run [.cancel 0, .passage 1]).check 5 ≠ none ∧
      (f.act (.cancel 3)).check 4 = f.check 4 := by
  intro deeds f
  obtain ⟨htells, -, hstays, -, -, hbeside⟩ := check_tells_history 0 deeds
  have hended : f.check 5 = some .deadlineExceeded := by decide
  refine ⟨(htells 2 (by decide)).1.1 (by decide), by decide, by decide,
    ((htells 5 (by decide)).2.1.1 hended).2,
    hstays 5 _ (by rw [hended]; exact Option.some_ne_none _), ?_⟩
  have hcopy : f.SharesToken 3 2 := .symm _ _ (.rel _ _ ⟨_, rfl, rfl, rfl⟩)
  have hother : f.Beside 1 2 4 :=
    .inr ⟨1, 4, .refl 1, ⟨_, rfl, rfl, rfl⟩, by decide, .refl 4⟩
  exact hbeside 1 2 3 4 ⟨_, rfl, rfl, rfl⟩ hcopy hother

end Resilience.Cancellation.Family
