import Resilience.Proofs.Cache.Contents

/-!
# What a read finds

`Holds` says when the calls made of a store leave a value under a key at an instant : the last
write of the key stored it, its life is not over, and no call since then deleted the key, cleared
the store or gave the key up for another one. A read finds a value exactly if the calls hold it
(`Usage.get_eq_some_iff_holds`).

The entries follow the calls up to expired ones (`Usage.Faithful`) : an entry is what the calls
last wrote, and what the calls last wrote is stored or has expired. An entry that has expired may
stay, leave with a purge or be given up for room, and no read tells the difference.
-/

namespace Resilience.Cache

variable {V : Type}

/-- The last instant of what is stored at `t` for `ttl`, at least a millisecond : thirty years
after `t` where the clock does not reach as far as `ttl` after it. -/
def lastInstant (t ttl : Nat) : Nat :=
  if t + max ttl Time.shortest < Time.limit then t + max ttl Time.shortest else t + Time.horizon

namespace Call

/-- The call ends what was stored under `key` before it : it writes or deletes the key, clears the
store, or is a write for which the key is given up. -/
def Ends (c : Call V) (key : String) : Prop :=
  (∃ value ttl?, c.request = .set key value ttl?) ∨ c.request = .delete key ∨
    c.request = .clear ∨
      ∃ other value ttl?, c.request = .set other value ttl? ∧ c.reply = .evicted (some key)

/-- Whether the call is a purge. -/
def isPurge (c : Call V) : Bool :=
  match c.request with
  | .purge => true
  | _ => false

end Call

/-- The calls leave `value` under `key` at `t`, where writes are for `defaultTtl` if they say
nothing else. -/
def Holds (defaultTtl : Nat) (calls : List (Call V)) (key : String) (value : V) (t : Nat) : Prop :=
  ∃ before w after ttl?, calls = before ++ w :: after ∧ w.request = .set key value ttl? ∧
    t ≤ lastInstant w.time (ttl?.getD defaultTtl) ∧ ∀ c ∈ after, ¬c.Ends key

/-- The calls last wrote the entry `e` under `key`, alive or not. -/
def Wrote (defaultTtl : Nat) (calls : List (Call V)) (key : String) (e : Entry V) : Prop :=
  ∃ before w after value ttl?, calls = before ++ w :: after ∧ w.request = .set key value ttl? ∧
    e = .storedAt value (max (ttl?.getD defaultTtl) Time.shortest) w.time ∧
    ∀ c ∈ after, ¬c.Ends key

/-- An entry expires after the last instant at which its value is to be had. -/
theorem expiresAt_storedAt (value : V) (ttl t : Nat) :
    (Entry.storedAt value (max ttl Time.shortest) t).expiresAt = lastInstant t ttl := by
  simp only [Entry.storedAt, Time.after, Time.after?, lastInstant]
  split <;> rfl

/-- What the history says of a value is what it says of the entry that was written last. -/
theorem holds_iff_wrote (defaultTtl : Nat) (calls : List (Call V)) (key : String) (value : V)
    (t : Nat) : Holds defaultTtl calls key value t ↔
      ∃ e, Wrote defaultTtl calls key e ∧ t ≤ e.expiresAt ∧ e.value = value := by
  constructor
  · rintro ⟨before, w, after, ttl?, rfl, hw, ht, hafter⟩
    refine ⟨_, ⟨before, w, after, value, ttl?, rfl, hw, rfl, hafter⟩, ?_, rfl⟩
    rw [expiresAt_storedAt]
    exact ht
  · rintro ⟨e, ⟨before, w, after, value', ttl?, rfl, hw, rfl, hafter⟩, ht, rfl⟩
    rw [expiresAt_storedAt] at ht
    exact ⟨before, w, after, ttl?, rfl, hw, ht, hafter⟩

/-! ## One more call -/

/-- In a list with one element more, an element is that one or stands before it. -/
theorem snoc_eq_append_cons {α : Type} {l before after : List α} {c w : α}
    (h : l ++ [c] = before ++ w :: after) : (w = c ∧ after = []) ∨
      ∃ rest, after = rest ++ [c] ∧ l = before ++ w :: rest := by
  rcases List.eq_nil_or_concat after with rfl | ⟨rest, d, rfl⟩
  · exact Or.inl ⟨(List.singleton_inj.1 (List.append_inj' h rfl).2).symm, rfl⟩
  · rw [List.concat_eq_append, ← List.cons_append, ← List.append_assoc] at h
    obtain ⟨hl, hd⟩ := List.append_inj' h rfl
    exact Or.inr ⟨rest, by rw [List.concat_eq_append, hd], hl⟩

section Snoc

variable {defaultTtl : Nat} {calls : List (Call V)} {c : Call V} {key : String} {e : Entry V}

/-- A write is the last one there is. -/
theorem wrote_snoc_set {value : V} {ttl? : Option Nat} (hc : c.request = .set key value ttl?) :
    Wrote defaultTtl (calls ++ [c]) key e ↔
      e = .storedAt value (max (ttl?.getD defaultTtl) Time.shortest) c.time := by
  constructor
  · rintro ⟨before, w, after, value', ttl', hcalls, hw, rfl, hafter⟩
    rcases snoc_eq_append_cons hcalls with ⟨rfl, -⟩ | ⟨rest, rfl, -⟩
    · rw [hc] at hw
      cases hw
      rfl
    · exact absurd (Or.inl ⟨value, ttl?, hc⟩) (hafter c (by simp))
  · rintro rfl
    exact ⟨calls, c, [], value, ttl?, rfl, hc, rfl, by simp⟩

/-- A call that is no write of the key changes what was last written only by ending it. -/
theorem wrote_snoc (hc : ∀ value ttl?, c.request ≠ .set key value ttl?) :
    Wrote defaultTtl (calls ++ [c]) key e ↔ Wrote defaultTtl calls key e ∧ ¬c.Ends key := by
  constructor
  · rintro ⟨before, w, after, value, ttl?, hcalls, hw, rfl, hafter⟩
    rcases snoc_eq_append_cons hcalls with ⟨rfl, -⟩ | ⟨rest, rfl, rfl⟩
    · exact absurd hw (hc value ttl?)
    · exact ⟨⟨before, w, rest, value, ttl?, rfl, hw, rfl, fun d hd => hafter d (by simp [hd])⟩,
        hafter c (by simp)⟩
  · rintro ⟨⟨before, w, after, value, ttl?, rfl, hw, rfl, hafter⟩, hends⟩
    refine ⟨before, w, after ++ [c], value, ttl?, by simp, hw, rfl, fun d hd => ?_⟩
    rcases List.mem_append.1 hd with hd | hd
    · exact hafter d hd
    · exact List.mem_singleton.1 hd ▸ hends

end Snoc

/-! ## The entries follow the calls -/

/-- What a request does to one key : it writes it, it ends what was stored, or it leaves that as it
was unless it has expired. -/
theorem Store.getElem?_perform (s : Store V) (now : Nat) (r : Request V) (key : String) :
    (∃ value ttl?, r = .set key value ttl? ∧ (s.perform now r).2.entries[key]? =
        some (.storedAt value (max (ttl?.getD s.defaultTtl) Time.shortest) now)) ∨
      (∀ value ttl?, r ≠ .set key value ttl?) ∧
        (Call.Ends ⟨now, r, (s.perform now r).1⟩ key ∧ (s.perform now r).2.entries[key]? = none ∨
          ¬Call.Ends ⟨now, r, (s.perform now r).1⟩ key ∧
            ((s.perform now r).2.entries[key]? = s.entries[key]? ∨
              (s.perform now r).2.entries[key]? = none ∧
                ∃ e, s.entries[key]? = some e ∧ e.isExpiredAt now = true)) := by
  cases r with
  | set k value ttl? =>
    rw [perform_set]
    have hlookup := s.getElem?_setFor k value (ttl?.getD s.defaultTtl) now key
    by_cases hk : k = key
    · subst hk
      rw [if_pos rfl] at hlookup
      exact Or.inl ⟨value, ttl?, rfl, hlookup⟩
    · have hne : ∀ value' ttl', Request.set k value ttl? ≠ .set key value' ttl' := by
        rintro value' ttl' heq
        cases heq
        exact hk rfl
      refine Or.inr ⟨hne, ?_⟩
      rw [if_neg hk] at hlookup
      by_cases hev : (s.setFor k value (ttl?.getD s.defaultTtl) now).1 = some key
      · rw [if_pos hev] at hlookup
        exact Or.inl ⟨by simp [Call.Ends, hev], hlookup⟩
      · rw [if_neg hev] at hlookup
        exact Or.inr ⟨by simp [Call.Ends, hev, hk], Or.inl hlookup⟩
  | get k =>
    refine Or.inr ⟨nofun, Or.inr ⟨by simp [Call.Ends, perform], Or.inl ?_⟩⟩
    exact congrArg (·[key]?) (s.entries_get k now)
  | containsLive k => exact Or.inr ⟨nofun, Or.inr ⟨by simp [Call.Ends, perform], Or.inl rfl⟩⟩
  | delete k =>
    have hlookup := s.getElem?_delete k key
    refine Or.inr ⟨nofun, ?_⟩
    by_cases hk : k = key
    · rw [if_pos hk] at hlookup
      exact Or.inl ⟨by simp [Call.Ends, hk], hlookup⟩
    · rw [if_neg hk] at hlookup
      exact Or.inr ⟨by simp [Call.Ends, perform, hk], Or.inl hlookup⟩
  | clear =>
    refine Or.inr ⟨nofun, Or.inl ⟨by simp [Call.Ends], ?_⟩⟩
    simp [perform, clear]
  | purge =>
    refine Or.inr ⟨nofun, Or.inr ⟨by simp [Call.Ends, perform], ?_⟩⟩
    show (s.purge now).2.entries[key]? = _ ∨ (s.purge now).2.entries[key]? = none ∧ _
    rw [getElem?_purge]
    cases hstored : s.entries[key]? with
    | none => exact Or.inl rfl
    | some e =>
      by_cases he : e.isExpiredAt now = true
      · exact Or.inr ⟨by simp [Option.filter, he], e, rfl, he⟩
      · exact Or.inl (by simp [Option.filter, he])

namespace Usage

/-- What is stored was last written, and what was last written is stored or has expired. -/
structure Faithful (defaultTtl : Nat) (u : Usage V) : Prop where
  sound : ∀ key e, u.store.entries[key]? = some e → Wrote defaultTtl u.calls key e
  complete : ∀ key e, Wrote defaultTtl u.calls key e →
    u.store.entries[key]? = some e ∨
      u.store.entries[key]? = none ∧ e.isExpiredAt u.now = true

variable {u : Usage V} {defaultTtl : Nat}

/-- One step keeps the entries faithful to the history. -/
theorem Faithful.step (h : u.Faithful defaultTtl)
    (httl : u.store.defaultTtl = max defaultTtl Time.shortest) (x : Step V) :
    (u.step x).Faithful defaultTtl := by
  obtain ⟨wait, r⟩ := x
  have hwritten : ∀ ttl? : Option Nat, max (ttl?.getD u.store.defaultTtl) Time.shortest =
      max (ttl?.getD defaultTtl) Time.shortest := by
    intro ttl?
    cases ttl? with
    | none => rw [Option.getD_none, Option.getD_none, httl, Nat.max_assoc, Nat.max_self]
    | some ttl => rfl
  have hlater : ∀ e : Entry V, e.isExpiredAt u.now = true →
      e.isExpiredAt (u.now + wait) = true := by
    intro e he
    simp only [Entry.isExpiredAt, decide_eq_true_eq] at *
    omega
  have hkey := u.store.getElem?_perform (u.now + wait) r
  constructor
  · intro key e he
    show Wrote defaultTtl (u.calls ++ [⟨u.now + wait, r, _⟩]) key e
    rcases hkey key with ⟨value, ttl?, rfl, hnew⟩ | ⟨hne, ⟨hends, hnone⟩ | ⟨hends, hsame⟩⟩
    · rw [wrote_snoc_set rfl, ← hwritten]
      exact (Option.some.inj (he.symm.trans hnew))
    · exact absurd (he.symm.trans hnone) (by simp)
    · rcases hsame with hsame | ⟨hnone, -⟩
      · exact (wrote_snoc hne).2 ⟨h.sound key e (hsame.symm.trans he), hends⟩
      · exact absurd (he.symm.trans hnone) (by simp)
  · intro key e he
    replace he : Wrote defaultTtl (u.calls ++ [⟨u.now + wait, r, _⟩]) key e := he
    show (u.store.perform (u.now + wait) r).2.entries[key]? = some e ∨
      (u.store.perform (u.now + wait) r).2.entries[key]? = none ∧
        e.isExpiredAt (u.now + wait) = true
    rcases hkey key with ⟨value, ttl?, rfl, hnew⟩ | ⟨hne, ⟨hends, hnone⟩ | ⟨hends, hsame⟩⟩
    · rw [wrote_snoc_set rfl, ← hwritten] at he
      exact Or.inl (hnew.trans (congrArg some he.symm))
    · exact absurd hends ((wrote_snoc hne).1 he).2
    · have hbefore := h.complete key e ((wrote_snoc hne).1 he).1
      rcases hsame with hsame | ⟨hnone, e', he', hexpired⟩
      · rw [hsame]
        exact hbefore.imp_right (And.imp_right (hlater e))
      · refine Or.inr ⟨hnone, ?_⟩
        rcases hbefore with hstored | ⟨hgone, -⟩
        · rw [hstored] at he'
          exact Option.some.inj he' ▸ hexpired
        · rw [hgone] at he'
          cases he'

/-- However a new store is used, its entries are faithful to the history of its calls. -/
theorem faithful_run (maxSize defaultTtl : Nat) (policy : Policy) (start : Nat)
    (steps : List (Step V)) :
    ((fresh maxSize defaultTtl policy start : Usage V).run steps).Faithful defaultTtl := by
  refine (run_of_step (P := fun u : Usage V => u.Faithful defaultTtl ∧
    u.store.defaultTtl = max defaultTtl Time.shortest) (fun u x hu => ⟨hu.1.step hu.2 x, ?_⟩)
    ⟨⟨fun key e he => ?_, fun key e he => ?_⟩, rfl⟩ steps).1
  · have hsettings := u.store.settings_perform (u.now + x.wait) x.request
    exact (congrArg (fun settings => settings.2.1) hsettings).trans hu.2
  · simp [fresh, Store.empty] at he
  · obtain ⟨before, w, after, -, -, hcalls, -⟩ := he
    simp [fresh] at hcalls

end Usage

/-! ## Reads -/

/-- Purges write nothing and end nothing, and may be left out. -/
theorem holds_without_purges_iff (defaultTtl : Nat) (calls : List (Call V)) (key : String)
    (value : V) (t : Nat) : Holds defaultTtl (calls.filter fun c => !c.isPurge) key value t ↔
      Holds defaultTtl calls key value t := by
  have hset : ∀ (c : Call V) ttl?, c.request = .set key value ttl? → c.isPurge = false := by
    intro c ttl? hc
    simp [Call.isPurge, hc]
  have hends : ∀ c : Call V, (!c.isPurge) = false → ¬c.Ends key := by
    intro c hc
    have hpurge : c.request = .purge := by
      unfold Call.isPurge at hc
      split at hc
      · assumption
      · cases hc
    simp [Call.Ends, hpurge]
  constructor
  · rintro ⟨before, w, after, ttl?, hcalls, hw, ht, hafter⟩
    obtain ⟨l, m, rfl, -, hm⟩ := List.filter_eq_append_iff.1 hcalls
    obtain ⟨skipped, rest, rfl, -, -, hrest⟩ := List.filter_eq_cons_iff.1 hm
    refine ⟨l ++ skipped, w, rest, ttl?, by simp, hw, ht, fun c hc => ?_⟩
    cases hp : !c.isPurge with
    | true => exact hafter c (hrest ▸ List.mem_filter.2 ⟨hc, hp⟩)
    | false => exact hends c hp
  · rintro ⟨before, w, after, ttl?, rfl, hw, ht, hafter⟩
    refine ⟨before.filter fun c => !c.isPurge, w, after.filter fun c => !c.isPurge, ttl?, ?_, hw,
      ht, fun c hc => hafter c (List.mem_filter.1 hc).1⟩
    simp [hset w ttl? hw]

namespace Usage

/-- The live values of a faithful store are those that the history says it holds. -/
theorem Faithful.live?_eq_some_iff {u : Usage V} {defaultTtl : Nat} (h : u.Faithful defaultTtl)
    (wait : Nat) (key : String) (value : V) : u.store.live? key (u.now + wait) = some value ↔
      Holds defaultTtl u.calls key value (u.now + wait) := by
  rw [Store.live?_eq_some_iff, holds_iff_wrote]
  constructor
  · rintro ⟨e, he, ht, hvalue⟩
    exact ⟨e, h.sound key e he, ht, hvalue⟩
  · rintro ⟨e, he, ht, hvalue⟩
    rcases h.complete key e he with hstored | ⟨-, hexpired⟩
    · exact ⟨e, hstored, ht, hvalue⟩
    · rw [Entry.isExpiredAt, decide_eq_true_eq] at hexpired
      omega

/-- However a new store is used, a read finds a value exactly if the calls hold it : the key's last
write stored it, its life is not over, and no call since then deleted the key, cleared the store or
gave the key up. `containsLive` tells the same, and the purges among the calls do not matter. -/
theorem get_eq_some_iff_holds (maxSize defaultTtl : Nat) (policy : Policy) (start : Nat)
    (steps : List (Step V)) (wait : Nat) (key : String) (value : V) :
    let u := (fresh maxSize defaultTtl policy start).run steps
    let now := u.now + wait
    ((u.store.get key now).1 = some value ↔ Holds defaultTtl u.calls key value now) ∧
      (u.store.containsLive key now = true ↔ ∃ v, Holds defaultTtl u.calls key v now) ∧
      (Holds defaultTtl u.calls key value now ↔
        Holds defaultTtl (u.calls.filter fun c => !c.isPurge) key value now) := by
  intro u now
  have hu : u.Faithful defaultTtl := faithful_run maxSize defaultTtl policy start steps
  refine ⟨?_, ?_, (holds_without_purges_iff defaultTtl u.calls key value now).symm⟩
  · rw [Store.fst_get]
    exact hu.live?_eq_some_iff wait key value
  · rw [Store.containsLive, Option.isSome_iff_exists]
    exact exists_congr fun v => hu.live?_eq_some_iff wait key v

end Usage

end Resilience.Cache
