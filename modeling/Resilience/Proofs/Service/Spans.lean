import Resilience.Proofs.Activity.Reports
import Resilience.Proofs.Retry.Schedule
import Resilience.Service.Lookup

/-!
# The spans of the components

Every operation of the cache reports one span, the limiter and the retry report one around what they
run, and all of these nest, however an operation ends and whatever others do meanwhile. A limiter
that turns an operation away and a retry that fails give their spans one failure, and no other span
of theirs is given any. Of an operation that is run nothing is assumed but that it nests, so that
the components can be put into one another as a look-up does (`Service.nests_lookup`).
-/

namespace Resilience

open Telemetry (Event Opens Span Trace spans? spans?_append)
open Activity (Stands nests_of_phases keeps_inside)

/-- Whether there are a limiter and a cache in a world. -/
structure World.Equipped (limited cached : Bool) (w : World) : Prop where
  limiter : w.limiter?.isSome = limited
  cache : w.cache?.isSome = cached

/-- The spans of an operation in which `ss` are within that of a component, if there is the
component. -/
def Telemetry.around (present : Bool) (name : String) (ss : List Span) : List Span :=
  if present then [{ name, inner := ss }] else ss

open Telemetry (around)

namespace World.Equipped

variable {limited cached : Bool} {w : World}

theorem allow (h : w.Equipped limited cached) : w.allow.2.Equipped limited cached := by
  obtain ⟨rfl, rfl⟩ := h
  unfold World.allow
  split
  · rename_i l hl
    exact ⟨by rw [hl]; rfl, rfl⟩
  · exact ⟨rfl, rfl⟩

theorem store (h : w.Equipped limited cached) (key value : String) (ttl? : Option Nat) :
    (w.store key value ttl?).1.Equipped limited cached := by
  rw [World.store_fst]
  exact ⟨h.limiter, Option.isSome_map.trans h.cache⟩

theorem read (h : w.Equipped limited cached) (key : String) :
    (w.read key).2.1.Equipped limited cached := by
  obtain ⟨rfl, rfl⟩ := h
  unfold World.read
  split
  · rename_i c hc
    exact ⟨rfl, by rw [hc]; rfl⟩
  · exact ⟨rfl, rfl⟩

end World.Equipped

variable {limited cached : Bool} {w : World}

/-! ## The cache -/

namespace Cache.Expiring

variable {V : Type} (c : Expiring V)

theorem spans_set (key : String) (value : V) (ttl? : Option Nat) (now : Nat) :
    spans? (c.set key value ttl? now).2 = some [{ name := setSpan }] := by
  have hspans : ∀ evicted, spans? ([.opened setSpan, .noted setSpan "cache.key" key] ++
      evictionEvents c.config.policy evicted ++ [.closed setSpan]) =
        some [{ name := setSpan }] := by
    intro evicted
    cases evicted <;> rfl
  cases ttl? <;> exact hspans _

theorem spans_get (key : String) (now : Nat) :
    spans? (c.get key now).2.2 = some [{ name := getSpan }] := rfl

theorem spans_delete (key : String) :
    spans? (c.delete key).2 = some [{ name := deleteSpan }] := rfl

theorem spans_clear : spans? c.clear.2 = some [{ name := clearSpan }] := rfl

end Cache.Expiring

theorem World.spans_store (h : w.Equipped limited cached) (key value : String)
    (ttl? : Option Nat) : spans? (w.store key value ttl?).2 =
      some (around cached Cache.Expiring.setSpan []) := by
  rw [← h.cache]
  unfold store onCache
  cases w.cache? with
  | none => rfl
  | some c => exact c.spans_set key value ttl? w.now

theorem World.spans_read (h : w.Equipped limited cached) (key : String) :
    spans? (w.read key).2.2 = some (around cached Cache.Expiring.getSpan []) := by
  rw [← h.cache]
  unfold read
  cases w.cache? with
  | none => rfl
  | some c => exact c.spans_get key w.now

/-- Without a cache nothing is found. -/
theorem World.cached_of_read (h : w.Equipped limited cached) {key value : String}
    (hvalue : (w.read key).1 = some value) : cached = true := by
  rw [← h.cache]
  unfold read at hvalue
  cases hc : w.cache? with
  | none => simp [hc] at hvalue
  | some c => rfl

variable {σ ε α : Type}

/-! ## The limiter -/

namespace Rate

/-- How the spans of a limited operation go with its result : it is turned away with a failure that
`away` holds of, or it is run. -/
inductive Spanned (span : String) (limited : Bool) (away : Error ε → Prop)
    (R : Except ε α → List Span → Prop) : Except (Error ε) α → List Span → Prop
  | away {e} (hlimited : limited = true) (he : away e) :
      Spanned span limited away R (.error e) [{ name := span, failures := 1 }]
  | ran {x ss} (h : R x ss) :
      Spanned span limited away R (x.mapError .operation) (around limited span ss)

/-- What has been reported before a limited operation is run. -/
def Begun (span : String) (limited : Bool) (es : List Event) : Prop :=
  if limited then Opens span [] es else es = []

theorem spans_finish {span : String} {es₀ es : List Event} {ss : List Span} (x : Except ε α)
    (hw : w.Equipped limited cached) (h : Begun span limited es₀) (hes : spans? es = some ss) :
    spans? (es₀ ++ es ++ finish span x w) = some (around limited span ss) := by
  unfold finish
  rw [hw.limiter]
  cases limited with
  | true =>
    have hopens : Opens span ss (es₀ ++ es) := Opens.append h hes
    exact hopens.close (by simp [Trace.next?, Trace.put])
  | false =>
    obtain rfl : es₀ = [] := h
    simpa [around] using hes

variable {op : Activity σ (Except ε α)} {R : Except ε α → List Span → Prop}

theorem keeps_operation {τ : Type} {span : String} {wrap : σ → τ} {s : σ}
    (hop : op.Nests (World.Equipped limited cached) R) (hw : w.Equipped limited cached) :
    (operationTurn span op wrap s w).world.Equipped limited cached :=
  keeps_inside (hop.keeps s hw) wrap fun _ _ hw => hw

/-- An operation that does not wait nests if what it runs does. -/
theorem nests_execute (hop : op.Nests (World.Equipped limited cached) R) :
    (execute op).Nests (World.Equipped limited cached)
      (Spanned executeSpan limited (· = .exceeded) R) := by
  refine nests_of_phases (fun _ : Unit => op) (fun _ => some)
    (fun _ x w => ⟨w, finish executeSpan x w, .finished (x.mapError .operation)⟩)
    (fun s es => s = none ∧ es = []) (fun _ => Begun executeSpan limited) (fun _ => hop)
    (fun _ _ _ => rfl) ?_
    (fun hbegun hes hR hw => .finished (spans_finish _ hw hbegun hes) (.ran hR))
    ?_ (fun _ => .own rfl ⟨rfl, rfl⟩)
  · rintro _ _ w ⟨rfl, rfl⟩ hw
    have hlimiter := hw.limiter
    unfold execute
    dsimp only
    cases hl : w.limiter? with
    | none =>
      obtain rfl : limited = false := by rw [← hlimiter, hl]; rfl
      exact Stands.begun (i := ()) rfl
    | some l =>
      obtain rfl : limited = true := by rw [← hlimiter, hl]; rfl
      dsimp only
      split
      · exact Stands.begun (i := ()) rfl
      · exact .finished rfl (.away rfl rfl)
  · rintro (_ | s) w hw
    · unfold execute
      dsimp only
      split
      · exact hw
      · split
        · exact hw.allow
        · exact hw.allow
    · exact keeps_operation hop hw

/-- What has been reported while an operation waits for a token. -/
def Waits (limited : Bool) : Waiting σ → List Event → Prop
  | .opening, es => es = []
  | .trying _, es | .sleeping _ _, es => limited = true ∧ Opens waitSpan [] es
  | .running _, _ => False

/-- How an operation stands that may have to wait for a token, with all that it has reported. -/
abbrev Queuing (limited cached : Bool) (op : Activity σ (Except ε α))
    (R : Except ε α → List Span → Prop) : Turn (Waiting σ) (Except (Error ε) α) → Prop :=
  Stands (fun _ : Unit => op) (fun _ => .running) (World.Equipped limited cached) (Waits limited)
    (fun _ => Begun waitSpan limited)
    (Spanned waitSpan limited (fun e => ∃ reason, e = .interrupted reason) R)

theorem queuing_giveUp {es : List Event} (hopens : Opens waitSpan [] es) (since : Nat)
    (reason : Interruption) : Queuing true cached op R ((giveUp since reason w).after es) :=
  .finished (hopens.close rfl) (.away rfl ⟨reason, rfl⟩)

theorem queuing_tryToken {es : List Event} (hopens : Opens waitSpan [] es)
    (handle : Cancellation) (since : Nat) :
    Queuing true cached op R ((tryToken handle op since w).after es) := by
  unfold tryToken
  split
  · exact queuing_giveUp hopens since _
  · dsimp only
    split
    · exact Stands.begun (i := ()) (hopens.note _ _)
    · split
      · exact queuing_giveUp hopens since _
      · exact .own rfl ⟨rfl, by rwa [List.append_nil]⟩

theorem keeps_tryToken (hw : w.Equipped limited cached) (handle : Cancellation) (since : Nat) :
    (tryToken handle op since w).world.Equipped limited cached := by
  unfold tryToken
  split
  · exact hw
  · dsimp only
    split
    · exact hw.allow
    · split <;> exact hw.allow

theorem nests_executeWithWait (handle : Cancellation)
    (hop : op.Nests (World.Equipped limited cached) R) :
    (executeWithWait handle op).Nests (World.Equipped limited cached)
      (Spanned waitSpan limited (fun e => ∃ reason, e = .interrupted reason) R) := by
  refine nests_of_phases (fun _ : Unit => op) (fun _ => .running)
    (fun _ x w => ⟨w, finish waitSpan x w, .finished (x.mapError .operation)⟩)
    (Waits limited) (fun _ => Begun waitSpan limited) (fun _ => hop) (fun _ _ _ => rfl) ?_
    (fun hbegun hes hR hw => .finished (spans_finish _ hw hbegun hes) (.ran hR)) ?_
    (fun _ => .own rfl rfl)
  · rintro (_ | since | ⟨since, wait⟩ | s) es w hes hw
    · obtain rfl : es = [] := hes
      unfold executeWithWait
      dsimp only
      rw [hw.limiter]
      cases hlimited : limited with
      | true => exact .own rfl ⟨rfl, rfl⟩
      | false => exact Stands.begun (i := ()) rfl
    · obtain ⟨rfl, hopens⟩ := hes
      exact queuing_tryToken hopens handle since
    · obtain ⟨rfl, hopens⟩ := hes
      unfold executeWithWait
      dsimp only
      split
      · exact .own rfl ⟨rfl, by rwa [List.append_nil]⟩
      · exact queuing_giveUp hopens since _
      · exact .own rfl ⟨rfl, by rwa [List.append_nil]⟩
    · exact hes.elim
  · rintro (_ | since | ⟨since, wait⟩ | s) w hw
    · unfold executeWithWait
      dsimp only
      split <;> exact hw
    · exact keeps_tryToken hw handle since
    · unfold executeWithWait
      dsimp only
      split <;> exact hw
    · exact keeps_operation hop hw

end Rate

/-! ## The retry -/

namespace Retry

/-- How the spans of attempts go on that all failed. -/
inductive Failures (R : Nat → Except ε α → List Span → Prop) : Nat → List Span → Prop
  | none : Failures R 0 []
  | next {n ss e ss'} (h : Failures R n ss) (he : R n (.error e) ss') :
      Failures R (n + 1) (ss ++ ss')

/-- How the spans of a retry go with its result, where `R i` is how those of the `i`-th attempt go
with that one's. -/
inductive Spanned (R : Nat → Except ε α → List Span → Prop) :
    Except (Error ε) α → List Span → Prop
  | succeeded {n ss a ss'} (h : Failures R n ss) (ha : R n (.ok a) ss') :
      Spanned R (.ok a) [{ name := span, inner := ss ++ ss' }]
  | failed {n ss e} (h : Failures R n ss) :
      Spanned R (.error e) [{ name := span, failures := 1, inner := ss }]

/-- What has been reported in a retry between two attempts. -/
def Between (R : Nat → Except ε α → List Span → Prop) : Stage σ → List Event → Prop
  | .opening, es => es = []
  | .checking f, es | .pausing f _, es => ∃ ss, Failures R f.calls ss ∧ Opens span ss es
  | .calling _ _, _ => False

/-- What has been reported when an attempt begins. -/
def Attempting (R : Nat → Except ε α → List Span → Prop) (f : Frame) (es : List Event) : Prop :=
  ∃ n ss, f.calls = n + 1 ∧ Failures R n ss ∧ Opens span ss es

variable [Described ε] {P : World → Prop} {op : Nat → Activity σ (Except ε α)}
  {R : Nat → Except ε α → List Span → Prop}

/-- How a retry stands, with all that it has reported. -/
abbrev Standing (P : World → Prop) (op : Nat → Activity σ (Except ε α))
    (R : Nat → Except ε α → List Span → Prop) :
    Turn (Stage σ) (Except (Error ε) α) → Prop :=
  Stands (fun f : Frame => op (f.calls - 1)) .calling P (Between R) (Attempting R) (Spanned R)

/-- A retry that ends after `events` closes its span. -/
theorem spans_conclude {es events : List Event} {ss : List Span} (h : Opens span ss es)
    (hevents : spans? events = some []) (f : Frame) (x : Except (Error ε) α) :
    spans? (es ++ (events ++ closing f x)) =
      some [{ name := span, failures := if x.isOk then 0 else 1, inner := ss }] := by
  have hopens := h.append hevents
  rw [List.append_nil] at hopens
  rw [← List.append_assoc]
  refine hopens.close ?_
  cases x <;> rfl

/-- A retry that ends with an error after `n` attempts that failed. -/
theorem standing_failed {es events : List Event} {ss : List Span} {n : Nat}
    (hfailures : Failures R n ss) (hopens : Opens span ss es) (hevents : spans? events = some [])
    (w : World) (f : Frame) (e : Error ε) :
    Standing P op R ((conclude w f events (.error e)).after es) :=
  .finished (spans_conclude hopens hevents f _) (.failed hfailures)

theorem standing_afterAttempt (c : Config) (handle : Cancellation) (worth : ε → Bool)
    (samples : Nat → Float) {f : Frame} {es₀ es : List Event} {ss : List Span} {x : Except ε α}
    (hattempting : Attempting R f es₀) (hss : spans? es = some ss) (hx : R (f.calls - 1) x ss) :
    Standing P op R ((afterAttempt c handle worth samples f x w).after (es₀ ++ es)) := by
  obtain ⟨n, ss₀, hcalls, hfailures, hopens⟩ := hattempting
  rw [hcalls, Nat.add_sub_cancel] at hx
  have hopens := hopens.append hss
  cases x with
  | ok a =>
    have hevents : ∀ c : Prop, ∀ _ : Decidable c, ∀ message fields,
        spans? (if c then [] else [.debug message fields]) = some [] := by
      intro c _ message fields
      split <;> rfl
    exact .finished (spans_conclude hopens (hevents ..) f _) (.succeeded hfailures hx)
  | error e =>
    have hfailures := hfailures.next hx
    unfold afterAttempt afterFailure
    dsimp only
    split
    · exact standing_failed hfailures hopens rfl w f _
    · split
      · exact standing_failed hfailures hopens rfl w f _
      · split
        · exact .own rfl ⟨_, hcalls ▸ hfailures, hopens.log ..⟩
        · have hlogs : ∀ text fields text' fields',
              spans? [.warn text fields, .info text' fields'] = some [] := fun _ _ _ _ => rfl
          exact standing_failed hfailures hopens (hlogs ..) w f _

theorem nests_execute (c : Config) (handle : Cancellation) (worth : ε → Bool)
    (samples : Nat → Float) (hop : ∀ i, (op i).Nests P (R i)) :
    (execute c handle worth samples op).Nests P (Spanned R) := by
  refine nests_of_phases (fun f : Frame => op (f.calls - 1)) .calling
    (fun f => afterAttempt c.coerced handle worth samples f) (Between R) (Attempting R)
    (fun f => hop (f.calls - 1)) (fun _ _ _ => rfl) ?_
    (fun hattempting hss hx _ => standing_afterAttempt _ handle worth samples hattempting hss hx) ?_
    (fun _ => .own rfl rfl)
  · rintro (_ | f | ⟨f, s⟩ | ⟨f, wait⟩) es w hes -
    · obtain rfl : es = [] := hes
      exact .own rfl ⟨[], .none, rfl⟩
    · obtain ⟨ss, hfailures, hopens⟩ := hes
      unfold execute
      dsimp only
      split
      · exact standing_failed hfailures hopens rfl w f _
      · let called : Frame := { f with calls := f.calls + 1 }
        have hattempting : Attempting R called es := ⟨f.calls, ss, rfl, hfailures, hopens⟩
        rw [Turn.after, List.append_nil]
        exact Stands.begun hattempting
    · exact hes.elim
    · obtain ⟨ss, hfailures, hopens⟩ := hes
      unfold execute
      dsimp only
      split
      · exact .own rfl ⟨ss, hfailures, by simpa using hopens⟩
      · exact standing_failed hfailures hopens rfl w f _
      · exact .own rfl ⟨ss, hfailures, by simpa using hopens⟩
  · rintro (_ | f | ⟨f, s⟩ | ⟨f, wait⟩) w hw
    · exact hw
    · unfold execute
      dsimp only
      split <;> exact hw
    · refine keeps_inside ((hop _).keeps s hw) _ fun x w hw => ?_
      rw [afterAttempt_world]
      exact hw
    · unfold execute
      dsimp only
      split <;> exact hw

end Retry

/-! ## Values that are computed -/

namespace Cache

open Expiring (getSpan setSpan)

/-- How the spans go with an answer of the cache, where `R` is how those of the supplier go with its
value. Without a cache there are only the supplier's. -/
inductive Spanned (cached : Bool) (R : Except ε String → List Span → Prop) :
    Except ε Answer → List Span → Prop
  | hit {value} (hcached : cached = true) :
      Spanned cached R (.ok ⟨value, true⟩) [{ name := getSpan }]
  | computed {value ss} (h : R (.ok value) ss) :
      Spanned cached R (.ok ⟨value, false⟩)
        (around cached getSpan [] ++ ss ++ around cached setSpan [])
  | failed {e ss} (h : R (.error e) ss) :
      Spanned cached R (.error e) (around cached getSpan [] ++ ss)

/-- A computation nests if its supplier does, between the spans of its read and its write. -/
theorem nests_getOrCompute (key : String) (ttl? : Option Nat)
    {supplier : Activity σ (Except ε String)} {R : Except ε String → List Span → Prop}
    (hsupplier : supplier.Nests (World.Equipped limited cached) R) :
    (getOrCompute key ttl? supplier).Nests (World.Equipped limited cached) (Spanned cached R) := by
  refine nests_of_phases (fun _ : Unit => supplier) (fun _ => some) _
    (fun s es => s = none ∧ es = []) (fun _ es => spans? es = some (around cached getSpan []))
    (fun _ => hsupplier) (fun _ _ _ => by simp only [getOrCompute]; rfl) ?_ ?_ ?_
    (fun _ => .own rfl ⟨rfl, rfl⟩)
  · rintro _ _ w ⟨rfl, rfl⟩ hw
    have hread := World.spans_read hw key
    unfold getOrCompute
    dsimp only
    split
    · rename_i value hvalue
      have hcached := World.cached_of_read hw hvalue
      subst hcached
      exact .finished hread (.hit rfl)
    · exact Stands.begun (i := ()) hread
  · intro _ es₀ es ss x w hbefore hss hx hw
    have hspans := spans?_append hbefore hss
    cases x with
    | ok value =>
      exact .finished (spans?_append hspans (World.spans_store hw key value ttl?)) (.computed hx)
    | error e => exact .finished (by simpa using hspans) (.failed hx)
  · rintro (_ | s) w hw
    · have hread := hw.read key
      unfold getOrCompute
      dsimp only
      split <;> exact hread
    · refine keeps_inside (hsupplier.keeps s hw) _ fun x w hw => ?_
      cases x with
      | ok value => exact hw.store key value ttl?
      | error e => exact hw

end Cache

/-! ## The look-up -/

namespace Service

open Cache.Expiring (getSpan setSpan)

/-- How the spans of a look-up go with its result. -/
inductive Spanned (key : String) (limited cached : Bool) : Except Error Found → List Span → Prop
  | tooLong (hkey : keyLimit < key.utf8ByteSize) :
      Spanned key limited cached (.error keyTooLong) []
  | refused (hlimited : limited = true) :
      Spanned key limited cached (.error .rateLimited) [{ name := Rate.executeSpan, failures := 1 }]
  | hit {value} (hcached : cached = true) :
      Spanned key limited cached (.ok ⟨key, value, true⟩)
        (around limited Rate.executeSpan [{ name := getSpan }])
  | computed {value} :
      Spanned key limited cached (.ok ⟨key, value, false⟩)
        (around limited Rate.executeSpan
          (around cached getSpan [] ++ [{ name := Retry.span }] ++ around cached setSpan []))
  | failed {e : Retry.Error IoError} :
      Spanned key limited cached (.error (.ofRetry e))
        (around limited Rate.executeSpan
          (around cached getSpan [] ++ [{ name := Retry.span, failures := 1 }]))

/-- Attempts without spans give the retry none. -/
theorem eq_nil_of_failures {n : Nat} {ss : List Span}
    (h : Retry.Failures (fun _ (_ : Except ε α) ss => ss = []) n ss) : ss = [] := by
  induction h with
  | none => rfl
  | next _ he ih => rw [ih, he, List.append_nil]

theorem nests_lookup (s : Service) (key : String) :
    (s.lookup key).Nests (World.Equipped limited cached) (Spanned key limited cached) := by
  have hresolve : (s.resolve key).Nests (World.Equipped limited cached) fun _ ss => ss = [] :=
    Activity.nests_call (fun hw => ⟨hw.limiter, hw.cache⟩) _
  have hguarded : ∀ handle, (s.guarded key handle).Nests (World.Equipped limited cached) _ :=
    fun handle => Rate.nests_execute <| Cache.nests_getOrCompute key none <|
      Retry.nests_execute s.retry handle isRetryable s.samples fun _ => hresolve
  refine Activity.nests_prepare (fun handle => (hguarded handle).map (answer key) ?_) ?_ ?_
  · intro r ss h
    cases h with
    | away hlimited he =>
      subst he
      exact .refused hlimited
    | ran h =>
      cases h with
      | hit hcached => exact .hit hcached
      | computed h =>
        cases h with
        | succeeded hfailures ha =>
          rw [eq_nil_of_failures hfailures, ha]
          exact .computed
      | failed h =>
        cases h with
        | failed hfailures =>
          rw [eq_nil_of_failures hfailures]
          exact .failed
  · intro w hw
    unfold checkKey
    split
    · exact hw
    · exact ⟨hw.limiter, hw.cache⟩
  · intro w w' a h
    unfold checkKey at h
    split at h
    · rename_i hkey
      cases h
      exact .tooLong hkey
    · cases h

end Service

/-! ## All components -/

open Cache.Expiring (setSpan getSpan deleteSpan clearSpan) in
/-- Spans nest, whatever comes of an operation and whatever others do while it waits : each is ended
once, its attributes and failures fall between its start and its end, and the spans within it end
before it does. An operation of the cache is one span. The limiter and the retry have one around
what they run, and a value that is computed has one of the cache before it and one after. An
operation that is turned away and a retry that fails give their span one failure, and no other span
has any. A look-up is put together from these. There may be a limiter and a cache or not, as long as
this stays so. -/
theorem spans_nest (limited cached : Bool) :
    (∀ {es : List Event} {ss : List Span}, spans? es = some ss →
      ∀ name, es.count (.opened name) = es.count (.closed name)) ∧
    (∀ {V : Type} (c : Cache.Expiring V) (key : String) (value : V) (ttl? : Option Nat) (now : Nat),
      spans? (c.set key value ttl? now).2 = some [{ name := setSpan }] ∧
        spans? (c.get key now).2.2 = some [{ name := getSpan }] ∧
        spans? (c.delete key).2 = some [{ name := deleteSpan }] ∧
        spans? c.clear.2 = some [{ name := clearSpan }]) ∧
    (∀ {σ ε α : Type} (handle : Cancellation) {op : Activity σ (Except ε α)}
      {R : Except ε α → List Span → Prop}, op.Nests (World.Equipped limited cached) R →
        (Rate.execute op).Nests (World.Equipped limited cached)
            (Rate.Spanned Rate.executeSpan limited (· = .exceeded) R) ∧
          (Rate.executeWithWait handle op).Nests (World.Equipped limited cached)
            (Rate.Spanned Rate.waitSpan limited (fun e => ∃ reason, e = .interrupted reason) R)) ∧
    (∀ {σ ε α : Type} [Described ε] (c : Retry.Config) (handle : Cancellation) (worth : ε → Bool)
      (samples : Nat → Float) {op : Nat → Activity σ (Except ε α)}
      {R : Nat → Except ε α → List Span → Prop},
      (∀ i, (op i).Nests (World.Equipped limited cached) (R i)) →
        (Retry.execute c handle worth samples op).Nests (World.Equipped limited cached)
          (Retry.Spanned R)) ∧
    (∀ {σ ε : Type} (key : String) (ttl? : Option Nat) {supplier : Activity σ (Except ε String)}
      {R : Except ε String → List Span → Prop},
      supplier.Nests (World.Equipped limited cached) R →
        (Cache.getOrCompute key ttl? supplier).Nests (World.Equipped limited cached)
          (Cache.Spanned cached R)) ∧
    ∀ (s : Service) (key : String), (s.lookup key).Nests (World.Equipped limited cached)
      (Service.Spanned key limited cached) := by
  refine ⟨Telemetry.count_opened_of_spans, fun c key value ttl? now => ?_, fun handle _ _ hop => ?_,
    fun c handle worth samples _ _ hop => Retry.nests_execute c handle worth samples hop,
    Cache.nests_getOrCompute, fun s key => s.nests_lookup key⟩
  · exact ⟨c.spans_set key value ttl? now, c.spans_get key now, c.spans_delete key, c.spans_clear⟩
  · exact ⟨Rate.nests_execute hop, Rate.nests_executeWithWait handle hop⟩

/-- A value computed by a retried operation behind a limiter that is waited for, and a first
look-up, whose value is computed and stored. -/
theorem spans_nest_of_first_lookup :
    let call : Activity _ (Except IoError String) :=
      .call fun _ => { delay? := some (5 * Time.millisecond), result := .error ⟨.timedOut, none⟩ }
    let handle : Cancellation := { token := ({} : Tokens).fresh.1 }
    let lookup := ({ retry := {}, timeOfDay := fun _ => "" } : Service).lookup "k"
    (Rate.executeWithWait handle <| Cache.getOrCompute "k" none <|
        Retry.execute {} handle (fun _ => true) (fun _ => 0.5) fun _ => call).Nests
      (World.Equipped true true)
      (Rate.Spanned Rate.waitSpan true (fun e => ∃ reason, e = .interrupted reason)
        (Cache.Spanned true (Retry.Spanned fun _ _ ss => ss = []))) ∧
    ∃ turns w, lookup.Course (World.ofSettings {}).1 turns
        (.finished (.ok ⟨"k", "value:k", false⟩)) w ∧
      spans? (lookup.reports turns) = some
        [{ name := Rate.executeSpan
           inner := [{ name := Cache.Expiring.getSpan }, { name := Retry.span },
             { name := Cache.Expiring.setSpan }] }] ∧
      ∀ name, (lookup.reports turns).count (.opened name) =
        (lookup.reports turns).count (.closed name) := by
  intro call handle lookup
  obtain ⟨hcount, -, hlimiter, hretry, hcompute, hlookup⟩ := spans_nest true true
  have hcall : call.Nests (World.Equipped true true) fun _ ss => ss = [] :=
    Activity.nests_call (fun hw => ⟨hw.limiter, hw.cache⟩) _
  refine ⟨(hlimiter handle (hcompute "k" none
    (hretry {} handle (fun _ => true) (fun _ => 0.5) fun _ => hcall))).2, ?_⟩
  have hnests := hlookup { retry := {}, timeOfDay := fun _ => "" } "k"
  have hbegun : lookup.Course (World.ofSettings {}).1 _ _ _ := .start
  -- The turns are computed, which takes closed terms.
  subst lookup
  have h₁ := hnests.turn ⟨hbegun, List.forall_mem_nil _, ⟨rfl, rfl⟩⟩ rfl
  have h₂ := hnests.turn h₁ rfl
  have h₃ := hnests.turn h₂ rfl
  have h₄ := hnests.turn h₃ rfl
  have h₅ := hnests.turn h₄ rfl
  obtain ⟨hcourse, hturns, -⟩ := hnests.turn h₅ rfl
  obtain ⟨ss, hss, hspanned⟩ := hnests.spans hcourse hturns
  refine ⟨_, _, hcourse, ?_, hcount hss⟩
  cases hspanned with
  | computed => exact hss

end Resilience
