import Resilience.Telemetry.Event

/-!
# Spans that nest

The events of one task are read from the first to the last with the spans that are open at hand. A
log entry may stand anywhere. An attribute, a failure or an end must be of the innermost open span,
so that a span is closed once and after all spans within it. Events nest if they can be read to the
end and nothing stays open ; `spans?` is then the forest of their spans.

Events that nest can be read wherever they stand : they leave the open spans open and are found
within the innermost of them (`Trace.run?_of_spans`).
-/

namespace Resilience.Telemetry

/-- A span, with its failures counted and the spans within it in the order of their ends. -/
structure Span where
  name : String
  failures : Nat := 0
  inner : List Span := []

/-- What has been read of a task's events. -/
structure Trace where
  /-- The spans that are open, innermost first. -/
  active : List Span := []
  /-- The spans that ended with none around them. -/
  ended : List Span := []

namespace Trace

/-- Adds spans that have ended where the trace stands. -/
def put (t : Trace) (ss : List Span) : Trace :=
  match t.active with
  | [] => { t with ended := t.ended ++ ss }
  | s :: outer => { t with active := { s with inner := s.inner ++ ss } :: outer }

/-- Reads an event. -/
def next? (t : Trace) (e : Event) : Option Trace :=
  match e, t.active with
  | .logged .., _ => some t
  | .opened name, active => some { t with active := { name } :: active }
  | _, [] => none
  | .noted name _ _, s :: _ => if s.name = name then some t else none
  | .failed name _, s :: outer =>
    if s.name = name then
      some { t with active := { s with failures := s.failures + 1 } :: outer }
    else
      none
  | .closed name, s :: outer =>
    if s.name = name then some (({ t with active := outer } : Trace).put [s]) else none

/-- Reads events one after the other. -/
def run? (t : Trace) (es : List Event) : Option Trace := es.foldlM next? t

end Trace

/-- The spans of events that nest. -/
def spans? (es : List Event) : Option (List Span) :=
  (({} : Trace).run? es).bind fun t => if t.active.isEmpty then some t.ended else none

namespace Trace

/-! ## Reading on -/

@[simp] theorem run?_nil (t : Trace) : t.run? [] = some t := rfl

@[simp] theorem run?_cons (t : Trace) (e : Event) (es : List Event) :
    t.run? (e :: es) = (t.next? e).bind (·.run? es) := rfl

@[simp] theorem run?_append (t : Trace) (es es' : List Event) :
    t.run? (es ++ es') = (t.run? es).bind (·.run? es') := by
  rw [run?, List.foldlM_append]
  rfl

@[simp] theorem put_nil (t : Trace) : t.put [] = t := by
  obtain ⟨_ | ⟨⟨name, failures, inner⟩, outer⟩, ended⟩ := t <;> simp [put]

theorem put_put (t : Trace) (ss ss' : List Span) : (t.put ss).put ss' = t.put (ss ++ ss') := by
  obtain ⟨_ | ⟨s, outer⟩, ended⟩ := t <;> simp [put]

@[simp] theorem map_active_put (t : Trace) (ss : List Span) :
    (t.put ss).active.map Span.name = t.active.map Span.name := by
  obtain ⟨_ | ⟨s, outer⟩, ended⟩ := t <;> rfl

/-! ## Reading among others -/

/-- What `u` has read, read after what `t` has. -/
def beneath (t u : Trace) : Trace :=
  { t.put u.ended with active := u.active ++ (t.put u.ended).active }

theorem beneath_put (t u : Trace) (ss : List Span) :
    t.beneath (u.put ss) = (t.beneath u).put ss := by
  obtain ⟨_ | ⟨s, outer⟩, ended⟩ := u
  · exact (t.put_put ended ss).symm
  · rfl

/-- What is open around them does not keep events from being read. -/
theorem next?_beneath (t : Trace) {u u' : Trace} {e : Event} (h : u.next? e = some u') :
    (t.beneath u).next? e = some (t.beneath u') := by
  cases e with
  | logged | opened =>
    cases h
    rfl
  | noted name | failed name =>
    obtain ⟨_ | ⟨s, outer⟩, ended⟩ := u
    · cases h
    · obtain ⟨hs, ⟨⟩⟩ := Option.ite_none_right_eq_some.1 h
      exact if_pos hs
  | closed name =>
    obtain ⟨_ | ⟨s, outer⟩, ended⟩ := u
    · cases h
    · -- The last span that `u` has open goes where `t` stands.
      obtain ⟨hs, hu⟩ := Option.ite_none_right_eq_some.1 h
      rw [← Option.some.inj hu, beneath_put]
      exact if_pos hs

/-- What is reported inside a span is read there as it is read alone. -/
theorem run?_beneath (t : Trace) {u u' : Trace} {es : List Event} (h : u.run? es = some u') :
    (t.beneath u).run? es = some (t.beneath u') := by
  induction es generalizing u with
  | nil =>
    cases h
    rfl
  | cons e es ih =>
    obtain ⟨u₁, hnext, hrun⟩ := Option.bind_eq_some_iff.1 h
    rw [run?_cons, next?_beneath t hnext]
    exact ih hrun

end Trace

/-! ## Events that nest -/

/-- A report consists of spans if it opens and closes them in order and leaves none open. -/
theorem spans?_eq_some_iff {es : List Event} {ss : List Span} :
    spans? es = some ss ↔ ({} : Trace).run? es = some ⟨[], ss⟩ := by
  unfold spans?
  cases ({} : Trace).run? es with
  | none => simp
  | some t =>
    obtain ⟨_ | ⟨s, outer⟩, ended⟩ := t <;> simp

/-- Events that nest are found where they stand. -/
theorem Trace.run?_of_spans {es : List Event} {ss : List Span} (h : spans? es = some ss)
    (t : Trace) : t.run? es = some (t.put ss) := by
  have hbeneath := run?_beneath t (spans?_eq_some_iff.1 h)
  have hempty : t.beneath {} = t := by simp [beneath]
  rw [hempty] at hbeneath
  simpa [beneath] using hbeneath

@[simp] theorem spans?_nil : spans? [] = some [] := rfl

/-- Two reports one after the other have the spans of both. -/
theorem spans?_append {es es' : List Event} {ss ss' : List Span} (h : spans? es = some ss)
    (h' : spans? es' = some ss') : spans? (es ++ es') = some (ss ++ ss') := by
  rw [spans?_eq_some_iff] at h ⊢
  rw [Trace.run?_append, h]
  exact Trace.run?_of_spans h' _

/-- A span is open from its start to its end. -/
theorem Trace.count_of_next? {t t' : Trace} {e : Event} (h : t.next? e = some t') (name : String) :
    [e].count (.opened name) + (t.active.map Span.name).count name =
      [e].count (.closed name) + (t'.active.map Span.name).count name := by
  cases e with
  | logged =>
    cases h
    rfl
  | opened =>
    cases h
    simp [List.count_cons, Nat.add_comm]
  | noted name' | failed name' =>
    obtain ⟨_ | ⟨s, outer⟩, ended⟩ := t
    · cases h
    · obtain ⟨-, ⟨⟩⟩ := Option.ite_none_right_eq_some.1 h
      rfl
  | closed name' =>
    obtain ⟨_ | ⟨s, outer⟩, ended⟩ := t
    · cases h
    · obtain ⟨rfl, ⟨⟩⟩ := Option.ite_none_right_eq_some.1 h
      simp [List.count_cons, Nat.add_comm]

/-- What is open at the end was open at the start or was opened, and not closed. -/
theorem Trace.count_of_run? {t t' : Trace} {es : List Event} (h : t.run? es = some t')
    (name : String) : es.count (.opened name) + (t.active.map Span.name).count name =
      es.count (.closed name) + (t'.active.map Span.name).count name := by
  induction es generalizing t with
  | nil =>
    cases h
    rfl
  | cons e es ih =>
    obtain ⟨t₁, hnext, hrun⟩ := Option.bind_eq_some_iff.1 h
    have hfirst := count_of_next? hnext name
    have hrest := ih hrun
    rw [List.count_cons, List.count_cons]
    simp only [List.count_singleton] at hfirst
    omega

/-- Of events that nest, as many are ends of a span as are starts of one. -/
theorem count_opened_of_spans {es : List Event} {ss : List Span} (h : spans? es = some ss)
    (name : String) : es.count (.opened name) = es.count (.closed name) :=
  Trace.count_of_run? (spans?_eq_some_iff.1 h) name

/-- As many starts as ends do not suffice. -/
example : spans? [.opened "a", .opened "b", .closed "a", .closed "b"] = none := rfl

/-! ## An open span -/

/-- Events that nest but for the span `name`, which they begin and leave open, with the spans `ss`
in it. -/
def Opens (name : String) (ss : List Span) (es : List Event) : Prop :=
  ({} : Trace).run? es = some ⟨[{ name, inner := ss }], []⟩

namespace Opens

variable {name : String} {ss ss' : List Span} {es es' : List Event}

theorem append (h : Opens name ss es) (h' : spans? es' = some ss') :
    Opens name (ss ++ ss') (es ++ es') := by
  rw [Opens, Trace.run?_append, h]
  exact Trace.run?_of_spans h' _

theorem log (h : Opens name ss es) (level : Level) (message : String) (fields : List Field) :
    Opens name ss (es ++ [.logged level message fields]) := by
  rw [Opens, Trace.run?_append, h]
  rfl

theorem note (h : Opens name ss es) (key value : String) :
    Opens name ss (es ++ [.noted name key value]) := by
  rw [Opens, Trace.run?_append, h]
  simp [Trace.next?]

/-- What ends the span ends the events. -/
theorem close {failures : Nat} (h : Opens name ss es)
    (h' : Trace.run? ⟨[{ name, inner := ss }], []⟩ es' =
      some ⟨[], [{ name, failures, inner := ss }]⟩) :
    spans? (es ++ es') = some [{ name, failures, inner := ss }] := by
  rw [spans?_eq_some_iff, Trace.run?_append, h]
  exact h'

end Opens

end Resilience.Telemetry
