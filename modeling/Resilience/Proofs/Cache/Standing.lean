import Resilience.Proofs.Cache.Ranking

/-!
# The victim in terms of the history

What happens to a ranking is an `Event`, and its position is the number of events before it. The
events tell which keys are tracked, since when (`entered`), when they were last written or read
(`touched`) and how often they have been read since they are tracked (`reads`). A policy compares
keys by these alone (`standing`), and the victim is the tracked key that goes before all others
(`IsVictim`).

A ranking keeps less : a number of reads and one tick for each key. `Follows` relates the two. Ticks
are in the order of the positions they stand for, since a key that is touched gets both the next
tick and the latest position, and every other key keeps what it has (`Carried`). As long as no key
has more reads than are counted, the ranking's victim is the history's
(`Follows.victim?_eq_some_iff`).
-/

namespace Resilience.Cache.Ranking

/-- What is done to a ranking. -/
inductive Action where
  | write (key : String)
  | read (key : String)
  | remove (key : String)
  | pop
  | clear
deriving DecidableEq, Repr

/-- What happened to a ranking. -/
inductive Event where
  | written (key : String)
  | read (key : String)
  | removed (key : String)
  /-- A victim was taken out, if there was one. -/
  | popped (key? : Option String)
  | cleared
deriving DecidableEq, Repr

/-! ## The history

The events are listed with the latest first. -/

/-- Whether the key was written and not given up since. -/
def tracked (key : String) : List Event → Bool
  | [] => false
  | .written k :: past => k = key || tracked key past
  | .read _ :: past => tracked key past
  | .removed k :: past => k ≠ key && tracked key past
  | .popped k? :: past => k? ≠ some key && tracked key past
  | .cleared :: _ => false

/-- The position of the write that made the key tracked. -/
def entered (key : String) : List Event → Nat
  | [] => 0
  | e :: past =>
    if e = .written key ∧ tracked key past = false then past.length else entered key past

/-- The position of the key's last write or read. -/
def touched (key : String) : List Event → Nat
  | [] => 0
  | e :: past => if e = .written key ∨ e = .read key then past.length else touched key past

/-- The number of the key's reads after the position `p`. -/
def readsAfter (key : String) (p : Nat) : List Event → Nat
  | [] => 0
  | e :: past => readsAfter key p past + if e = .read key ∧ p < past.length then 1 else 0

/-- The number of the key's reads since it is tracked. -/
def reads (key : String) (past : List Event) : Nat := readsAfter key (entered key past) past

/-- What decides which of two keys is given up first : a number of reads, then a position. -/
def standing (policy : Policy) (key : String) (past : List Event) : Nat × Nat :=
  match policy with
  | .lru => (0, touched key past)
  | .fifo => (0, entered key past)
  | .lfu => (reads key past, touched key past)

/-- Whether `a` is to be given up before `b`. -/
def Precedes (policy : Policy) (past : List Event) (a b : String) : Prop :=
  Prod.Lex (· < ·) (· < ·) (standing policy a past) (standing policy b past)

instance (policy : Policy) (past : List Event) (a b : String) :
    Decidable (Precedes policy past a b) :=
  inferInstanceAs (Decidable (Prod.Lex (· < ·) (· < ·) _ _))

/-- The tracked key that is to be given up before all others. -/
def IsVictim (policy : Policy) (past : List Event) (key : String) : Prop :=
  tracked key past = true ∧
    ∀ other, tracked other past = true → other ≠ key → Precedes policy past key other

/-! ### One more event -/

section Cons

variable {policy : Policy} {past : List Event} {key : String} {e : Event}

theorem readsAfter_of_length_le {p : Nat} (h : past.length ≤ p + 1) :
    readsAfter key p past = 0 := by
  induction past with
  | nil => rfl
  | cons e past ih =>
    rw [List.length_cons] at h
    rw [readsAfter, ih (by omega), if_neg (by omega)]

theorem readsAfter_le_length (p : Nat) : readsAfter key p past ≤ past.length := by
  induction past with
  | nil => exact Nat.le_refl _
  | cons e past ih =>
    rw [readsAfter, List.length_cons]
    split <;> omega

/-- There are no more reads of a key than events. -/
theorem standing_fst_le (policy : Policy) (key : String) (past : List Event) :
    (standing policy key past).1 ≤ past.length := by
  cases policy with
  | lru => exact Nat.zero_le _
  | fifo => exact Nat.zero_le _
  | lfu => exact readsAfter_le_length _

/-- If an event either sets a position to its own or leaves it, the position lies in the past. -/
theorem position_lt {f : List Event → Nat} (hnil : f [] = 0)
    (hcons : ∀ e past, f (e :: past) = past.length ∨ f (e :: past) = f past) (h : past ≠ []) :
    f past < past.length := by
  induction past with
  | nil => exact absurd rfl h
  | cons e past ih =>
    rw [List.length_cons]
    rcases hcons e past with hnow | hbefore
    · omega
    · rw [hbefore]
      cases past with
      | nil => omega
      | cons e' past => exact Nat.lt_succ_of_lt (ih nofun)

theorem entered_lt (h : past ≠ []) : entered key past < past.length := by
  refine position_lt rfl (fun e past => ?_) h
  rw [entered]
  split
  · exact Or.inl rfl
  · exact Or.inr rfl

theorem touched_lt (h : past ≠ []) : touched key past < past.length := by
  refine position_lt rfl (fun e past => ?_) h
  rw [touched]
  split
  · exact Or.inl rfl
  · exact Or.inr rfl

theorem ne_nil_of_tracked (h : tracked key past = true) : past ≠ [] := by
  rintro rfl
  cases h

/-- A position lies in the past. -/
theorem standing_snd_lt (h : tracked key past = true) :
    (standing policy key past).2 < past.length := by
  cases policy with
  | lru => exact touched_lt (ne_nil_of_tracked h)
  | fifo => exact entered_lt (ne_nil_of_tracked h)
  | lfu => exact touched_lt (ne_nil_of_tracked h)

/-- What happens to another key does not count. -/
theorem standing_cons_of_ne (hw : e ≠ .written key) (hr : e ≠ .read key) :
    standing policy key (e :: past) = standing policy key past := by
  cases policy <;> simp [standing, reads, readsAfter, entered, touched, hw, hr]

theorem standing_written_of_untracked (policy : Policy) (h : tracked key past = false) :
    standing policy key (.written key :: past) = (0, past.length) := by
  cases policy with
  | lru => simp [standing, touched]
  | fifo => simp [standing, entered, h]
  | lfu => simp [standing, reads, entered, touched, h, readsAfter_of_length_le]

/-- A second write renews the standing of a key, or leaves it as it was. -/
theorem standing_written_of_tracked (policy : Policy) (h : tracked key past = true) :
    standing policy key (.written key :: past) = match policy with
      | .lru => (0, past.length)
      | .fifo => standing .fifo key past
      | .lfu => ((standing .lfu key past).1, past.length) := by
  cases policy <;> simp [standing, reads, readsAfter, entered, touched, h]

theorem standing_read_of_tracked (policy : Policy) (h : tracked key past = true) :
    standing policy key (.read key :: past) = match policy with
      | .lru => (0, past.length)
      | .fifo => standing .fifo key past
      | .lfu => ((standing .lfu key past).1 + 1, past.length) := by
  have hentered : entered key past < past.length := entered_lt (ne_nil_of_tracked h)
  cases policy <;> simp [standing, reads, readsAfter, entered, touched, hentered]

end Cons

/-! ## A ranking with its history -/

/-- A ranking and what happened to it. -/
structure Log where
  ranking : Ranking
  past : List Event := []

namespace Log

/-- Does one thing to the ranking and notes it. -/
def act (l : Log) : Action → Log
  | .write key => ⟨l.ranking.recordWrite key, .written key :: l.past⟩
  | .read key => ⟨l.ranking.recordRead key, .read key :: l.past⟩
  | .remove key => ⟨l.ranking.remove key, .removed key :: l.past⟩
  | .pop =>
    match l.ranking.popVictim with
    | some (key, ranking) => ⟨ranking, .popped (some key) :: l.past⟩
    | none => ⟨l.ranking, .popped none :: l.past⟩
  | .clear => ⟨l.ranking.clear, .cleared :: l.past⟩

/-- The log after one action after the other. -/
def run (l : Log) (actions : List Action) : Log := actions.foldl act l

/-- A ranking to which nothing has happened. -/
def start (policy : Policy) : Log := { ranking := .empty policy }

@[simp] theorem length_past_act (l : Log) (a : Action) :
    (l.act a).past.length = l.past.length + 1 := by
  cases a with
  | pop =>
    unfold act
    cases l.ranking.popVictim <;> rfl
  | _ => rfl

/-- Every action has its place in the past. -/
theorem length_past_run (l : Log) (actions : List Action) :
    (l.run actions).past.length = l.past.length + actions.length := by
  induction actions generalizing l with
  | nil => rfl
  | cons a actions ih =>
    rw [run, List.foldl_cons, ← run, ih, length_past_act, List.length_cons]
    omega

/-- The ranking tells what the history tells : which keys are tracked, their reads as far as these
are counted, and the order of their positions. -/
structure Follows (policy : Policy) (l : Log) : Prop where
  coherent : l.ranking.Coherent
  policy_eq : l.ranking.policy = policy
  tracked_eq : ∀ key, tracked key l.past = (l.ranking.rank? key).isSome
  reads_eq : ∀ key rank, l.ranking.rank? key = some rank →
    rank.reads = min (standing policy key l.past).1 readLimit
  tick_lt_iff : ∀ a b ra rb, l.ranking.rank? a = some ra → l.ranking.rank? b = some rb →
    (ra.tick < rb.tick ↔ (standing policy a l.past).2 < (standing policy b l.past).2)

variable {policy : Policy} {l : Log}

/-- A key with a rank has entered and has not left since. -/
theorem Follows.tracked_of_rank (h : l.Follows policy) {key : String} {rank : Rank}
    (hrank : l.ranking.rank? key = some rank) : tracked key l.past = true := by
  rw [h.tracked_eq, hrank]
  rfl

/-- What an event may do to a key : the key is given up, it keeps its rank and its standing, or
it gets the next tick with the latest position. -/
inductive Carried (policy : Policy) (l l' : Log) (key : String) : Prop where
  | gone (hrank : l'.ranking.rank? key = none) (htracked : tracked key l'.past = false)
  | kept (hrank : l'.ranking.rank? key = l.ranking.rank? key)
      (htracked : tracked key l'.past = tracked key l.past)
      (hstanding : tracked key l.past = true →
        standing policy key l'.past = standing policy key l.past)
  | touched (n m : Nat) (hrank : l'.ranking.rank? key = some ⟨n, l.ranking.clock + 1⟩)
      (htracked : tracked key l'.past = true)
      (hstanding : standing policy key l'.past = (m, l.past.length))
      (hreads : n = min m readLimit)

/-- A key of the new ranking is as it was, or it has the next tick and the latest position. -/
theorem Follows.rank_cases (h : l.Follows policy) {l' : Log} {key : String} {rank : Rank}
    (hkey : Carried policy l l' key) (hrank : l'.ranking.rank? key = some rank) :
    (l.ranking.rank? key = some rank ∧
        standing policy key l'.past = standing policy key l.past) ∨
      rank.tick = l.ranking.clock + 1 ∧ (standing policy key l'.past).2 = l.past.length := by
  cases hkey with
  | gone hnone =>
    rw [hnone] at hrank
    cases hrank
  | kept hsame _ hstanding =>
    rw [hsame] at hrank
    exact Or.inl ⟨hrank, hstanding (h.tracked_of_rank hrank)⟩
  | touched n m hnew _ hstanding =>
    rw [hnew] at hrank
    cases hrank
    exact Or.inr ⟨rfl, by rw [hstanding]⟩

/-- If every key is carried over, the ranking still follows. -/
theorem Follows.of_carried (h : l.Follows policy) {l' : Log} (hcoherent : l'.ranking.Coherent)
    (hpolicy : l'.ranking.policy = policy) (hcarried : ∀ key, Carried policy l l' key) :
    l'.Follows policy where
  coherent := hcoherent
  policy_eq := hpolicy
  tracked_eq key := by
    cases hcarried key with
    | gone hnone htracked =>
      rw [htracked, hnone]
      rfl
    | kept hsame htracked => rw [htracked, hsame, h.tracked_eq]
    | touched n m hnew htracked =>
      rw [htracked, hnew]
      rfl
  reads_eq key rank hrank := by
    cases hcarried key with
    | gone hnone =>
      rw [hnone] at hrank
      cases hrank
    | kept hsame _ hstanding =>
      rw [hsame] at hrank
      rw [hstanding (h.tracked_of_rank hrank), h.reads_eq key rank hrank]
    | touched n m hnew _ hstanding hreads =>
      rw [hnew] at hrank
      cases hrank
      rw [hstanding]
      exact hreads
  tick_lt_iff a b ra rb ha hb := by
    -- A new tick is later than every old one, and so is the latest position.
    have old : ∀ key rank, l.ranking.rank? key = some rank →
        rank.tick ≤ l.ranking.clock ∧ (standing policy key l.past).2 < l.past.length :=
      fun key rank hrank =>
        ⟨h.coherent.tick_le key rank hrank, standing_snd_lt (h.tracked_of_rank hrank)⟩
    rcases h.rank_cases (hcarried a) ha with ⟨ha, hsa⟩ | ⟨hta, hpa⟩ <;>
      rcases h.rank_cases (hcarried b) hb with ⟨hb, hsb⟩ | ⟨htb, hpb⟩
    · rw [hsa, hsb]
      exact h.tick_lt_iff a b ra rb ha hb
    · obtain ⟨htick, hpos⟩ := old a ra ha
      rw [hsa]
      omega
    · obtain ⟨htick, hpos⟩ := old b rb hb
      rw [hsb]
      omega
    · omega

/-! ### One action -/

/-- An empty ranking follows an empty past. -/
theorem follows_start (policy : Policy) : (start policy).Follows policy where
  coherent := coherent_empty policy
  policy_eq := rfl
  tracked_eq key := by simp [start, tracked, empty, rank?]
  reads_eq key rank h := by simp [start, empty, rank?] at h
  tick_lt_iff a b ra rb h := by simp [start, empty, rank?] at h

/-- An event about other keys leaves a key as it was. -/
theorem carried_of_ne {l' : Log} {key : String} {e : Event} (hpast : l'.past = e :: l.past)
    (hrank : l'.ranking.rank? key = l.ranking.rank? key)
    (htracked : tracked key (e :: l.past) = tracked key l.past) (hw : e ≠ .written key)
    (hr : e ≠ .read key) : Carried policy l l' key :=
  .kept hrank (hpast ▸ htracked) fun _ => hpast ▸ standing_cons_of_ne hw hr

/-- A write leaves the ranking following its past. -/
theorem Follows.write (h : l.Follows policy) (key : String) :
    (l.act (.write key)).Follows policy := by
  refine h.of_carried (h.coherent.recordWrite key) h.policy_eq fun k => ?_
  by_cases hk : key = k
  · subst hk
    have hrank := l.ranking.rank?_recordWrite_self key
    have htracked : tracked key (.written key :: l.past) = true := by simp [tracked]
    cases hold : l.ranking.rank? key with
    | none =>
      have hnew : tracked key l.past = false := by rw [h.tracked_eq, hold]; rfl
      rw [hold] at hrank
      exact .touched 0 0 hrank htracked (standing_written_of_untracked policy hnew)
        (Nat.zero_min _).symm
    | some rank =>
      have hagain : tracked key l.past = true := h.tracked_of_rank hold
      have hstanding := standing_written_of_tracked policy hagain
      rw [hold, h.policy_eq] at hrank
      cases policy with
      | lru => exact .touched 0 0 hrank htracked hstanding (Nat.zero_min _).symm
      | fifo =>
        exact .kept (hrank.trans hold.symm) (htracked.trans hagain.symm) fun _ => hstanding
      | lfu => exact .touched _ _ hrank htracked hstanding (h.reads_eq key rank hold)
  · exact carried_of_ne rfl (l.ranking.rank?_recordWrite_of_ne hk) (by simp [tracked, hk])
      (by simp [hk]) (by simp)

theorem Follows.read (h : l.Follows policy) (key : String) :
    (l.act (.read key)).Follows policy := by
  refine h.of_carried (h.coherent.recordRead key)
    ((policy_recordRead l.ranking key).trans h.policy_eq) fun k => ?_
  by_cases hk : key = k
  · subst hk
    have hrank := l.ranking.rank?_recordRead_self key
    cases hold : l.ranking.rank? key with
    | none =>
      have hunknown : tracked key l.past = false := by rw [h.tracked_eq, hold]; rfl
      rw [hold] at hrank
      exact .gone hrank hunknown
    | some rank =>
      have htracked : tracked key l.past = true := h.tracked_of_rank hold
      have hreads := h.reads_eq key rank hold
      have hstanding := standing_read_of_tracked policy htracked
      rw [hold, h.policy_eq] at hrank
      cases policy with
      | lru => exact .touched 0 0 hrank htracked hstanding (Nat.zero_min _).symm
      | fifo => exact .kept (hrank.trans hold.symm) rfl fun _ => hstanding
      | lfu =>
        -- Counting on from a number cut off is cutting off the number counted on.
        have hcount : min (rank.reads + 1) readLimit =
            min ((standing .lfu key l.past).1 + 1) readLimit := by
          omega
        exact .touched _ _ hrank htracked hstanding hcount
  · exact carried_of_ne rfl (l.ranking.rank?_recordRead_of_ne hk) rfl (by simp) (by simp [hk])

/-- A key that stops being tracked leaves the others as they are. -/
theorem Follows.giveUp (h : l.Follows policy) {key : String} {e : Event}
    (htracked : ∀ k, tracked k (e :: l.past) = (decide (key ≠ k) && tracked k l.past))
    (hw : ∀ k, e ≠ .written k) (hr : ∀ k, e ≠ .read k) :
    Follows policy ⟨l.ranking.remove key, e :: l.past⟩ := by
  refine h.of_carried (h.coherent.remove key)
    ((policy_remove l.ranking key).trans h.policy_eq) fun k => ?_
  have hrank := l.ranking.rank?_remove key k
  by_cases hk : key = k
  · exact .gone (by simpa [hk] using hrank) (by simp [htracked, hk])
  · exact carried_of_ne rfl (by simpa [hk] using hrank) (by simp [htracked, hk]) (hw k) (hr k)

theorem Follows.pop (h : l.Follows policy) : (l.act .pop).Follows policy := by
  unfold act
  rw [h.coherent.popVictim_eq]
  cases l.ranking.victim? with
  | some key =>
    exact h.giveUp (fun k => by simp [tracked]) nofun nofun
  | none =>
    exact h.of_carried h.coherent h.policy_eq fun k =>
      carried_of_ne rfl rfl (by simp [tracked]) nofun nofun

theorem Follows.clear (h : l.Follows policy) : (l.act .clear).Follows policy :=
  h.of_carried (Coherent.clear l.ranking) h.policy_eq fun key =>
    .gone (rank?_clear l.ranking key) rfl

theorem Follows.act (h : l.Follows policy) (a : Action) : (l.act a).Follows policy := by
  cases a with
  | write key => exact h.write key
  | read key => exact h.read key
  | remove key => exact h.giveUp (fun k => by simp [tracked]) nofun nofun
  | pop => exact h.pop
  | clear => exact h.clear

/-- A ranking follows its past, whatever is done to it. -/
theorem Follows.run (h : l.Follows policy) (actions : List Action) :
    (l.run actions).Follows policy := by
  induction actions generalizing l with
  | nil => exact h
  | cons a actions ih => exact ih (h.act a)

/-! ### The victim -/

/-- Ranks are ordered as the history orders the keys, as long as all reads are counted. -/
theorem Follows.compare_eq_lt_iff (h : l.Follows policy) (hreads : l.past.length ≤ readLimit)
    {a b : String} {ra rb : Rank} (ha : l.ranking.rank? a = some ra)
    (hb : l.ranking.rank? b = some rb) :
    compare ra rb = .lt ↔ Precedes policy l.past a b := by
  have hra := h.reads_eq a ra ha
  have hrb := h.reads_eq b rb hb
  have hla := standing_fst_le policy a l.past
  have hlb := standing_fst_le policy b l.past
  rw [Rank.compare_eq_lt_iff, h.tick_lt_iff a b ra rb ha hb, Precedes, Prod.lex_def, hra, hrb,
    Nat.min_eq_left (Nat.le_trans hla hreads), Nat.min_eq_left (Nat.le_trans hlb hreads)]

/-- The queue is in the order of the history. -/
theorem Follows.pairwise_queue (h : l.Follows policy) (hreads : l.past.length ≤ readLimit) :
    l.ranking.queue.Pairwise (Precedes policy l.past) := by
  rw [queue, List.pairwise_map]
  refine Std.TreeMap.ordered_keys_toList.imp_of_mem fun {a b} ha hb hlt => ?_
  exact (h.compare_eq_lt_iff hreads (h.coherent.mem_order.1 ha) (h.coherent.mem_order.1 hb)).1 hlt

/-- The victim of the ranking is the victim of the history. -/
theorem Follows.victim?_eq_some_iff (h : l.Follows policy) (hreads : l.past.length ≤ readLimit)
    {key : String} : l.ranking.victim? = some key ↔ IsVictim policy l.past key := by
  have tracked_iff : ∀ k, tracked k l.past = true ↔ ∃ rank, l.ranking.rank? k = some rank := by
    intro k
    rw [h.tracked_eq, Option.isSome_iff_exists]
  rw [h.coherent.victim?_eq_some_iff, IsVictim, tracked_iff]
  constructor
  · rintro ⟨rank, hrank, hleast⟩
    refine ⟨⟨rank, hrank⟩, fun other hother hne => ?_⟩
    obtain ⟨r, hr⟩ := (tracked_iff other).1 hother
    exact (h.compare_eq_lt_iff hreads hrank hr).1 (hleast other r hr hne)
  · rintro ⟨⟨rank, hrank⟩, hleast⟩
    refine ⟨rank, hrank, fun other r hr hne => ?_⟩
    exact (h.compare_eq_lt_iff hreads hrank hr).2
      (hleast other ((tracked_iff other).2 ⟨r, hr⟩) hne)

/-- There is no victim exactly if no key has entered and not left since. -/
theorem Follows.victim?_eq_none_iff (h : l.Follows policy) :
    l.ranking.victim? = none ↔ ∀ key, tracked key l.past = false := by
  rw [h.coherent.victim?_eq_none_iff]
  refine forall_congr' fun key => ?_
  rw [h.tracked_eq, Option.isSome_eq_false_iff, Option.isNone_iff_eq_none]

end Log

end Resilience.Cache.Ranking
