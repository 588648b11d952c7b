import Resilience.Activity.Operation
import Resilience.Proofs.Activity.Course
import Resilience.Proofs.Telemetry.Nesting

/-!
# What activities report

The `reports` of an activity are the events of its turns, without those of others that run beside
it. An activity `Nests` if its reports nest whenever it has come to its end, whatever others do
while it waits. What others leave as it is, such as whether there is a limiter, is assumed of the
worlds in which turns are taken.

Activities are put together from turns of their own and from phases in each of which another
activity runs. While that one runs the whole `Stands` behind what was reported before the phase and
a course of the inner activity, so that it is enough to say what is reported around the phases
(`Activity.nests_of_phases`).
-/

namespace Resilience

open Telemetry (Event Span spans? spans?_nil spans?_append)

variable {ι σ τ α β : Type}

/-- A turn with what was reported before it. -/
def Turn.after (t : Turn σ α) (es : List Event) : Turn σ α := { t with events := es ++ t.events }

namespace Activity

/-- The events of turns that were taken, each given by its state and its world. -/
def reports (p : Activity σ α) (turns : List (σ × World)) : List Event :=
  turns.flatMap fun t => (p.turn t.1 t.2).events

/-- One more turn adds its report. -/
theorem reports_append (p : Activity σ α) (turns : List (σ × World)) (s : σ) (w : World) :
    p.reports (turns ++ [(s, w)]) = p.reports turns ++ (p.turn s w).events := by
  simp [reports]

/-- Along every course of `p` to its end, with turns in worlds that `P` holds of, the reports nest,
and `R` holds of the result and the spans. -/
structure Nests (p : Activity σ α) (P : World → Prop) (R : α → List Span → Prop) : Prop where
  keeps : ∀ s {w}, P w → P (p.turn s w).world
  spans : ∀ {w₀ turns r w}, p.Course w₀ turns (.finished r) w → (∀ t ∈ turns, P t.2) →
    ∃ ss, spans? (p.reports turns) = some ss ∧ R r ss

variable {P : World → Prop}

/-- A turn in a world that `P` holds of is one more of those that the spans are about, and leaves
such a world. -/
theorem Nests.turn {p : Activity σ α} {R : α → List Span → Prop} (hp : p.Nests P R) {w₀ w : World}
    {turns : List (σ × World)} {progress : Progress σ α} {s : σ}
    (h : p.Course w₀ turns progress w ∧ (∀ t ∈ turns, P t.2) ∧ P w)
    (hs : progress.ready? w = some s) :
    p.Course w₀ (turns ++ [(s, w)]) (p.turn s w).progress (p.turn s w).world ∧
      (∀ t ∈ turns ++ [(s, w)], P t.2) ∧ P (p.turn s w).world := by
  obtain ⟨hcourse, hturns, hw⟩ := h
  refine ⟨hcourse.turn hs, fun t ht => ?_, hp.keeps s hw⟩
  rcases List.mem_append.1 ht with ht | ht
  · exact hturns t ht
  · exact List.mem_singleton.1 ht ▸ hw

/-- An activity that reports nothing has no spans. -/
theorem nests_of_silent {p : Activity σ α} (hkeeps : ∀ s {w}, P w → P (p.turn s w).world)
    (hsilent : ∀ s w, (p.turn s w).events = []) : p.Nests P fun _ ss => ss = [] where
  keeps := hkeeps
  spans {_ turns _ _} _ _ := by
    have hnone : p.reports turns = [] := List.flatMap_eq_nil_iff.2 fun t _ => hsilent t.1 t.2
    exact ⟨[], by rw [hnone, spans?_nil], rfl⟩

/-! ## Phases -/

/-- How an activity stands that has turns of its own and phases, with all that it has reported. In
the phase `i` the activity `p i` runs, whose states are wrapped by `wrap i`. It is said what has
been reported in the activity's own states and before each phase, and how its spans go with its
result. -/
inductive Stands (p : ι → Activity σ α) (wrap : ι → σ → τ) (P : World → Prop)
    (own : τ → List Event → Prop) (before : ι → List Event → Prop)
    (R : β → List Span → Prop) : Turn τ β → Prop
  | own {s es progress w} (hs : progress.state? = some s) (h : own s es) :
      Stands p wrap P own before R ⟨w, es, progress⟩
  | running {i es w₀ turns s w} (hbefore : before i es)
      (h : (p i).Course w₀ turns (.running s) w) (hturns : ∀ t ∈ turns, P t.2) :
      Stands p wrap P own before R ⟨w, es ++ (p i).reports turns, .running (wrap i s)⟩
  | waiting {i es w₀ turns s wait w} (hbefore : before i es)
      (h : (p i).Course w₀ turns (.waiting s wait) w) (hturns : ∀ t ∈ turns, P t.2) :
      Stands p wrap P own before R ⟨w, es ++ (p i).reports turns, .waiting (wrap i s) wait⟩
  | finished {es ss r w} (h : spans? es = some ss) (hr : R r ss) :
      Stands p wrap P own before R ⟨w, es, .finished r⟩

namespace Stands

variable {p : ι → Activity σ α} {wrap : ι → σ → τ} {own : τ → List Event → Prop}
  {before : ι → List Event → Prop} {R : β → List Span → Prop}

/-- A phase begins. -/
theorem begun {i : ι} {es : List Event} {w : World} (h : before i es) :
    Stands p wrap P own before R ⟨w, es, .running (wrap i (p i).start)⟩ := by
  have hbegun : Stands p wrap P own before R
      ⟨w, es ++ (p i).reports [], .running (wrap i (p i).start)⟩ :=
    .running h .start (List.forall_mem_nil _)
  rwa [reports, List.flatMap_nil, List.append_nil] at hbegun

/-- What others do while it waits makes no difference to how an activity stands. -/
theorem others {es : List Event} {s : τ} {wait : Wait} {w w' : World}
    (h : Stands p wrap P own before R ⟨w, es, .waiting s wait⟩) (hw : w.Becomes w')
    (hpunctual : w'.now ≤ max w.now wait.nextTick) :
    Stands p wrap P own before R ⟨w', es, .waiting s wait⟩ := by
  cases h with
  | own hs h => exact .own hs h
  | waiting hbefore h hturns => exact .waiting hbefore (h.others hw hpunctual) hturns

/-- A turn within a phase, which may be the last of the inner activity. -/
theorem turn_inside {S : α → List Span → Prop} {i : ι} {andThen : α → World → Turn τ β}
    {es₀ : List Event} (hp : (p i).Nests P S)
    (hthen : ∀ {es ss a w}, spans? es = some ss → S a ss → P w →
      Stands p wrap P own before R ((andThen a w).after (es₀ ++ es)))
    (hbefore : before i es₀) {w₀ w : World} {turns : List (σ × World)} {progress : Progress σ α}
    (h : (p i).Course w₀ turns progress w) (hturns : ∀ t ∈ turns, P t.2) {s : σ}
    (hs : progress.ready? w = some s) (hw : P w) :
    Stands p wrap P own before R
      ((((p i).turn s w).inside (wrap i) andThen).after (es₀ ++ (p i).reports turns)) := by
  obtain ⟨hcourse, hturns', hw'⟩ := hp.turn ⟨h, hturns, hw⟩ hs
  have hreports : es₀ ++ (p i).reports turns ++ ((p i).turn s w).events =
      es₀ ++ (p i).reports (turns ++ [(s, w)]) := by
    rw [reports_append, List.append_assoc]
  cases hprogress : ((p i).turn s w).progress with
  | running s' =>
    rw [Turn.inside_of_running hprogress, Turn.after, hreports]
    exact .running hbefore (hprogress ▸ hcourse) hturns'
  | waiting s' wait =>
    rw [Turn.inside_of_waiting hprogress, Turn.after, hreports]
    exact .waiting hbefore (hprogress ▸ hcourse) hturns'
  | finished a =>
    obtain ⟨ss, hss, hS⟩ := hp.spans (hprogress ▸ hcourse) hturns'
    have hlast := hthen hss hS hw'
    rw [Turn.after, ← hreports, List.append_assoc] at hlast
    rw [Turn.inside_of_finished hprogress]
    simpa only [Turn.after, List.append_assoc] using hlast

/-- What an activity leaves at its end. -/
theorem spans {es : List Event} {r : β} {w : World}
    (h : Stands p wrap P own before R ⟨w, es, .finished r⟩) :
    ∃ ss, spans? es = some ss ∧ R r ss := by
  cases h with
  | own hs => cases hs
  | finished hss hr => exact ⟨_, hss, hr⟩

end Stands

/-! ## From phases to the whole -/

section

variable {q : Activity τ β} (p : ι → Activity σ α) (wrap : ι → σ → τ)
  (andThen : ι → α → World → Turn τ β) {S : ι → α → List Span → Prop} {R : β → List Span → Prop}
  (own : τ → List Event → Prop) (before : ι → List Event → Prop)
  (hp : ∀ i, (p i).Nests P (S i))
  (hphase : ∀ i s w, q.turn (wrap i s) w = ((p i).turn s w).inside (wrap i) (andThen i))
  (hown : ∀ {s es w}, own s es → P w → Stands p wrap P own before R ((q.turn s w).after es))
  (hthen : ∀ {i es₀ es ss a w}, before i es₀ → spans? es = some ss → S i a ss → P w →
    Stands p wrap P own before R ((andThen i a w).after (es₀ ++ es)))

include hp hphase hown hthen

/-- A turn leaves an activity that runs others inside it with reports that nest. -/
theorem Stands.turn {progress : Progress τ β} {es : List Event} {w : World}
    (h : Stands p wrap P own before R ⟨w, es, progress⟩) {s : τ}
    (hs : progress.ready? w = some s) (hw : P w) :
    Stands p wrap P own before R ((q.turn s w).after es) := by
  cases h with
  | own hs' h =>
    cases (Progress.state?_of_ready hs).symm.trans hs'
    exact hown h hw
  | running hbefore h hturns =>
    cases hs
    rw [hphase]
    exact turn_inside (hp _) (hthen hbefore) hbefore h hturns rfl hw
  | @waiting i _ _ _ s' wait _ hbefore h hturns =>
    obtain ⟨hpoll, rfl⟩ : wait.poll w.tokens w.now ≠ .pending ∧ wrap i s' = s := by
      simpa [Progress.ready?] using hs
    have hready : (.waiting s' wait : Progress σ α).ready? w = some s' := by
      simp [Progress.ready?, hpoll]
    rw [hphase]
    exact turn_inside (hp i) (hthen hbefore) hbefore h hturns hready hw
  | finished => cases hs

/-- An activity nests if those in its phases do, and if it stands as it is said at the start, after
its own turns and after its phases. -/
theorem nests_of_phases (hkeeps : ∀ s {w}, P w → P (q.turn s w).world)
    (hstart : ∀ w, Stands p wrap P own before R ⟨w, [], .running q.start⟩) : q.Nests P R where
  keeps := hkeeps
  spans {w₀ turns r w} h hturns := by
    -- How the activity stands is kept by its own turns, and others make no difference to it.
    have hstands : ∀ {turns progress w}, q.Course w₀ turns progress w → (∀ t ∈ turns, P t.2) →
        Stands p wrap P own before R ⟨w, q.reports turns, progress⟩ := by
      intro turns progress w h hturns
      induction h with
      | start => exact hstart _
      | @turn turns progress s w _ hs ih =>
        have hw : P w := hturns (s, w) (List.mem_append_right _ List.mem_cons_self)
        have hstands := ih fun t ht => hturns t (List.mem_append_left _ ht)
        rw [reports_append]
        exact hstands.turn p wrap andThen own before hp hphase hown hthen hs hw
      | others _ hw hpunctual ih => exact (ih hturns).others hw hpunctual
    exact (hstands h hturns).spans

end

theorem keeps_inside {t : Turn σ α} (ht : P t.world) (wrap : σ → τ)
    {andThen : α → World → Turn τ β} (h : ∀ a {w}, P w → P (andThen a w).world) :
    P (t.inside wrap andThen).world := by
  unfold Turn.inside
  split
  · exact ht
  · exact ht
  · exact h _ ht

/-! ## Activities made of others -/

/-- A call of an operation reports nothing. -/
theorem nests_call {ε : Type} (hcalled : ∀ {w}, P w → P w.called)
    (outcome : World → Outcome ε α) : (call outcome).Nests P fun _ ss => ss = [] := by
  refine nests_of_silent (fun s w hw => ?_) fun s w => ?_
  · obtain _ | ⟨wait, result⟩ := s
    · unfold call
      dsimp only
      split <;> exact hcalled hw
    · unfold call
      dsimp only
      split <;> exact hw
  · obtain _ | ⟨wait, result⟩ := s <;> unfold call <;> dsimp only <;> split <;> rfl

variable {p : Activity σ α} {S : α → List Span → Prop} {R : β → List Span → Prop}

/-- What is made of a result reports nothing more. -/
theorem Nests.map (hp : p.Nests P S) (f : α → β) (hR : ∀ {a ss}, S a ss → R (f a) ss) :
    (p.map f).Nests P R := by
  refine nests_of_phases (fun _ : Unit => p) (fun _ s => s)
    (fun _ a w => ⟨w, [], .finished (f a)⟩) (fun _ _ => False) (fun _ es => es = [])
    (fun _ => hp) (fun _ _ _ => rfl) nofun ?_ ?_ fun _ => Stands.begun (i := ()) rfl
  · intro _ es₀ es ss a w hes hss hS _
    subst hes
    exact .finished (by simpa [Turn.after] using hss) (hR hS)
  · intro s w hw
    exact keeps_inside (hp.keeps s hw) _ fun _ _ hw => hw

/-- Nor does what is prepared, or comes to nothing. -/
theorem nests_prepare {γ : Type} {begin : World → World × Except α γ} {p : γ → Activity σ α}
    (hp : ∀ c, (p c).Nests P S) (hbegin : ∀ {w}, P w → P (begin w).1)
    (herror : ∀ {w w' a}, begin w = (w', .error a) → S a []) : (prepare begin p).Nests P S := by
  refine nests_of_phases p (fun c s => some (c, s)) (fun _ a w => ⟨w, [], .finished a⟩)
    (fun s es => s = none ∧ es = []) (fun _ es => es = []) hp (fun _ _ _ => rfl) ?_ ?_ ?_
    fun _ => .own rfl ⟨rfl, rfl⟩
  · rintro _ _ w ⟨rfl, rfl⟩ -
    rcases hbegun : begin w with ⟨w', a | c⟩
    · simp only [prepare, hbegun]
      exact .finished spans?_nil (herror hbegun)
    · simp only [prepare, hbegun]
      exact .begun rfl
  · intro c es₀ es ss a w hes hss hS _
    subst hes
    exact .finished (by simpa [Turn.after] using hss) hS
  · rintro (_ | ⟨c, s⟩) w hw
    · have hbegun := hbegin hw
      unfold prepare
      dsimp only
      split <;> simp_all
    · exact keeps_inside ((hp c).keeps s hw) _ fun _ _ hw => hw

end Activity

end Resilience
