import Resilience.Proofs.Retry.Law

/-!
# Orderly worlds

A world is orderly if all tokens that were called off, or are to be, have been handed out before,
and if the cache takes its time between two sweeps (`World.Orderly`). A world made from settings is
orderly and stays so. The next token that an orderly world hands out is one that nobody calls off by
mistake (`World.Orderly.neverEnds`).
-/

namespace Resilience

namespace Tokens

theorem cancels_eq (ts : Tokens) (due : List (Nat × Token)) :
    (due.foldl (fun ts c => ts.cancel c.2) ts).next = ts.next ∧
      ∀ number ∈ (due.foldl (fun ts c => ts.cancel c.2) ts).cancelled,
        number ∈ ts.cancelled ∨ ∃ c ∈ due, number ∈ c.2.lineage.head? := by
  induction due generalizing ts with
  | nil => exact ⟨rfl, fun number hnumber => .inl hnumber⟩
  | cons c due ih =>
    obtain ⟨hnext, hcancelled⟩ := ih (ts.cancel c.2)
    rw [cancel_eq] at hnext hcancelled
    refine ⟨by rw [List.foldl_cons, cancel_eq, hnext], fun number hnumber => ?_⟩
    rw [List.foldl_cons, cancel_eq] at hnumber
    rcases hcancelled number hnumber with hmem | ⟨d, hd, hhead⟩
    · rcases List.mem_append.1 hmem with hmem | hmem
      · exact .inr ⟨c, List.mem_cons_self, Option.mem_toList.1 hmem⟩
      · exact .inl hmem
    · exact .inr ⟨d, List.mem_cons_of_mem _ hd, hhead⟩

end Tokens

namespace World

/-- The cache takes its time between two sweeps, and the tokens called off or to be called off have
been handed out. -/
structure Orderly (w : World) : Prop where
  steady : w.Steady
  cancelled : ∀ number ∈ w.tokens.cancelled, number < w.tokens.next
  cancels : ∀ c ∈ w.cancels, ∀ own ∈ c.2.lineage.head?, own < w.tokens.next

/-- A new world is orderly, whatever its settings. -/
theorem orderly_ofSettings (s : Settings) : (ofSettings s).1.Orderly := by
  have hfresh : (ofSettings s).1.tokens = {} ∧ (ofSettings s).1.cancels = [] := by
    unfold ofSettings withCache withLimiter
    dsimp only
    split <;> split <;> exact ⟨rfl, rfl⟩
  exact ⟨steady_ofSettings s, by simp [hfresh.1], by simp [hfresh.2]⟩

namespace Orderly

variable {w w' : World}

theorem of_eq (h : w.Orderly) (htokens : w'.tokens = w.tokens) (hcancels : w'.cancels = w.cancels)
    (hsteady : w'.Steady) : w'.Orderly where
  steady := hsteady
  cancelled := by
    rw [htokens]
    exact h.cancelled
  cancels := by
    rw [htokens, hcancels]
    exact h.cancels

theorem called (h : w.Orderly) : w.called.Orderly := h.of_eq rfl rfl h.steady

theorem advance (h : w.Orderly) (t : Nat) : (w.advance t).Orderly := h.of_eq rfl rfl h.steady

theorem store (h : w.Orderly) (key value : String) (ttl? : Option Nat) :
    (w.store key value ttl?).1.Orderly := by
  rw [store_fst]
  exact h.of_eq rfl rfl
    (h.steady.of_map (f := fun c => (c.set key value ttl? w.now).1) rfl fun _ => rfl)

/-- Work in the background leaves the world orderly : it calls off no token but those arranged. -/
theorem background (h : w.Orderly) : w.background.1.Orderly := by
  obtain ⟨hnext, hcancelled⟩ :=
    w.tokens.cancels_eq (w.cancels.filter fun c => Time.fired c.1 w.now)
  refine ⟨steady_background h.steady, fun number hnumber => ?_, fun c hc => ?_⟩
  · rw [tokens_background] at hnumber ⊢
    rw [hnext]
    rcases hcancelled number hnumber with hmem | ⟨c, hc, hhead⟩
    · exact h.cancelled number hmem
    · exact h.cancels c (List.mem_filter.1 hc).1 number hhead
  · rw [cancels_background] at hc
    rw [tokens_background, hnext]
    exact h.cancels c (List.mem_filter.1 hc).1

/-- A token to be handed out is not called off, nor is it about to be. -/
theorem neverEnds (h : w.Orderly) : Cancellation.NeverEnds { token := w.tokens.fresh.1 } w where
  deadline := rfl
  live := by
    simp only [Tokens.isCancelled, Tokens.fresh, List.any_cons, List.any_nil, Bool.or_false,
      List.contains_eq_mem, decide_eq_false_iff_not]
    exact fun hmem => Nat.lt_irrefl _ (h.cancelled _ hmem)
  kept c hc own hown hmem := by
    have hlt := h.cancels c hc own hown
    rw [List.mem_singleton.1 hmem] at hlt
    exact Nat.lt_irrefl _ hlt

end Orderly

end World

end Resilience
