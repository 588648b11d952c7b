import Resilience.Proofs.Number.Digits
import Resilience.Proofs.Settings.Members
import Resilience.Proofs.Settings.Validity

/-!
# Settings survive their own text

Durations are written in whole milliseconds, as many as 64 bits hold, and read in the same way, so
that settings are read back as they were only if their durations are such counts and their numbers
fit (`Storable`). Everything a document or a variable can say is of this kind, and so are the
defaults and the least values the setters raise to : settings that were loaded are storable. They
are also valid, so that the coercion of what is read back changes nothing.

The two floats are taken on the strength of their texts.
-/

namespace Resilience

/-! ## Durations -/

namespace Time

/-- A whole number of milliseconds that fits 64 bits. -/
def Storable (d : Nat) : Prop := ∃ ms ≤ Number.wordLimit, d = ofMillis ms

theorem Storable.max {d e : Nat} (hd : Storable d) (he : Storable e) : Storable (max d e) := by
  rcases Nat.le_total d e with hle | hle
  · rwa [Nat.max_eq_right hle]
  · rwa [Nat.max_eq_left hle]

theorem storable_shortest : Storable shortest := ⟨1, by decide, rfl⟩

end Time

namespace Document

theorem loads_write_millis (wanted : String) {d : Nat} (h : Time.Storable d) :
    Loads (asMillis wanted) (millis d).write d := by
  obtain ⟨ms, hms, rfl⟩ := h
  have hmillis : millis (Time.ofMillis ms) = natural ms := by
    have hpos : 0 < Time.millisecond := by decide
    rw [millis, Time.toMillis, Time.ofMillis, Nat.mul_div_cancel _ hpos, Nat.min_eq_left hms]
  rw [hmillis]
  exact loads_millis wanted hms

/-- Whatever is read as a duration can be written as one. -/
theorem storable_of_asMillis {wanted : String} {d : Document} {duration : Nat}
    (h : asMillis wanted d = .ok duration) : Time.Storable duration := by
  obtain ⟨ms, hms, rfl⟩ := exists_of_map_eq_ok h
  exact ⟨ms, le_of_asNatural hms, rfl⟩

end Document

open Document (Loads)

/-! ## The cache -/

namespace Cache.Config

/-- Configurations of a cache that a document can hold. -/
structure Storable (c : Config) : Prop where
  defaultTtl : Time.Storable c.defaultTtl
  maxSize_le : c.maxSize ≤ Number.wordLimit
  sweepInterval : Time.Storable c.sweepInterval

variable {c : Config}

theorem storable_default : ({} : Config).Storable :=
  ⟨⟨300000, by decide, rfl⟩, by decide, ⟨1000, by decide, rfl⟩⟩

theorem storable_of_ofDocument {d : Document} (h : ofDocument d = .ok c) : c.Storable := by
  refine Document.asRecord_keeps (P := Storable) ?_ storable_default h
  simp only [fields, List.forall_mem_cons]
  refine ⟨?_, ?_, ?_, ?_, ?_, nofun⟩
  · exact Document.Field.keeps_of fun _ _ _ _ hs => ⟨hs.1, hs.2, hs.3⟩
  · exact Document.Field.keeps_of fun _ _ _ hread hs =>
      { hs with defaultTtl := Document.storable_of_asMillis hread }
  · exact Document.Field.keeps_of fun _ _ _ hread hs =>
      { hs with maxSize_le := Document.le_of_asNatural hread }
  · exact Document.Field.keeps_of fun _ _ _ hread hs =>
      { hs with sweepInterval := Document.storable_of_asMillis hread }
  · exact Document.Field.keeps_of fun _ _ _ _ hs => ⟨hs.1, hs.2, hs.3⟩

theorem Storable.coerced (h : c.Storable) : c.coerced.Storable where
  defaultTtl := h.defaultTtl.max Time.storable_shortest
  maxSize_le := Nat.max_le.2 ⟨h.maxSize_le, by decide⟩
  sweepInterval := h.sweepInterval.max Time.storable_shortest

theorem loads_write (h : c.Storable) : Loads ofDocument c.toDocument.write c := by
  have hmembers := loads_members (.some (Document.loads_bool _ c.enabled))
    (.some (Document.loads_write_millis _ h.defaultTtl))
    (.some (Document.loads_natural _ h.maxSize_le (Nat.le_refl _)))
    (.some (Document.loads_write_millis _ h.sweepInterval))
    (.some (Document.loads_choice _ (Policy.ofName?_name c.policy)))
  rw [toDocument, Document.write_record]
  exact hmembers

end Cache.Config

/-! ## The rate limit -/

namespace Rate.Config

/-- Configurations of a limiter that a document can hold. -/
structure Storable (c : Config) : Prop where
  pollInterval : Time.Storable c.pollInterval

variable {c : Config}

theorem storable_default : ({} : Config).Storable := ⟨⟨10, by decide, rfl⟩⟩

theorem storable_of_ofDocument {d : Document} (h : ofDocument d = .ok c) : c.Storable := by
  refine Document.asRecord_keeps (P := Storable) ?_ storable_default h
  simp only [fields, List.forall_mem_cons]
  refine ⟨?_, ?_, ?_, ?_, nofun⟩
  · exact Document.Field.keeps_of fun _ _ _ _ hs => ⟨hs.1⟩
  · exact Document.Field.keeps_of fun _ _ _ _ hs => ⟨hs.1⟩
  · exact Document.Field.keeps_of fun _ _ _ _ hs => ⟨hs.1⟩
  · exact Document.Field.keeps_of fun _ _ _ hread _ => ⟨Document.storable_of_asMillis hread⟩

theorem Storable.coerced (h : c.Storable) : c.coerced.Storable where
  pollInterval := h.pollInterval.max Time.storable_shortest

theorem loads_write (h : c.Storable) : Loads ofDocument c.toDocument.write c := by
  have hmembers := loads_members (.some (Document.loads_bool _ c.enabled))
    (.some (Document.loads_word32 c.requestsPerSecond)) (.some (Document.loads_word32 c.burst))
    (.some (Document.loads_write_millis _ h.pollInterval))
  rw [toDocument, Document.write_record]
  exact hmembers

end Rate.Config

/-! ## Retries -/

namespace Retry.Config

/-- Configurations of retries that a document can hold. -/
structure Storable (c : Config) : Prop where
  initialBackoff : Time.Storable c.initialBackoff
  maxBackoff : Time.Storable c.maxBackoff

variable {c : Config}

theorem storable_default : ({} : Config).Storable :=
  ⟨⟨100, by decide, rfl⟩, ⟨10000, by decide, rfl⟩⟩

theorem storable_of_ofDocument {d : Document} (h : ofDocument d = .ok c) : c.Storable := by
  refine Document.asRecord_keeps (P := Storable) ?_ storable_default h
  simp only [fields, List.forall_mem_cons]
  refine ⟨?_, ?_, ?_, ?_, ?_, nofun⟩
  · exact Document.Field.keeps_of fun _ _ _ _ hs => ⟨hs.1, hs.2⟩
  · exact Document.Field.keeps_of fun _ _ _ hread hs =>
      { hs with initialBackoff := Document.storable_of_asMillis hread }
  · exact Document.Field.keeps_of fun _ _ _ hread hs =>
      { hs with maxBackoff := Document.storable_of_asMillis hread }
  · exact Document.Field.keeps_of fun _ _ _ _ hs => ⟨hs.1, hs.2⟩
  · exact Document.Field.keeps_of fun _ _ _ _ hs => ⟨hs.1, hs.2⟩

theorem Storable.coerced (h : c.Storable) : c.coerced.Storable where
  initialBackoff := h.initialBackoff.max Time.storable_shortest
  maxBackoff := h.maxBackoff.max (h.initialBackoff.max Time.storable_shortest)

theorem loads_write (h : c.Storable)
    (hfactor : Loads (Document.asFloat "f64") (Document.float c.factor).write c.factor)
    (hjitter : Loads (Document.asFloat "f64") (Document.float c.jitter).write c.jitter) :
    Loads ofDocument c.toDocument.write c := by
  have hmembers := loads_members (.some (Document.loads_word32 c.maxRetries))
    (.some (Document.loads_write_millis _ h.initialBackoff))
    (.some (Document.loads_write_millis _ h.maxBackoff)) (.some hfactor) (.some hjitter)
  rw [toDocument, Document.write_record]
  exact hmembers

end Retry.Config

/-! ## All settings -/

namespace Settings

/-- Settings that a document can hold. -/
structure Storable (s : Settings) : Prop where
  cache : s.cache.Storable
  rateLimit : s.rateLimit.Storable
  retry : s.retry.Storable

variable {s : Settings}

theorem storable_of_ofDocument {d : Document} (h : ofDocument d = .ok s) : s.Storable := by
  refine Document.asRecord_keeps (P := Storable) ?_
    ⟨Cache.Config.storable_default, Rate.Config.storable_default, Retry.Config.storable_default⟩ h
  simp only [fields, List.forall_mem_cons]
  refine ⟨?_, ?_, ?_, ?_, nofun⟩
  · exact Document.Field.keeps_of fun _ _ _ _ hs => ⟨hs.1, hs.2, hs.3⟩
  · exact Document.Field.keeps_of fun _ _ _ hread hs =>
      { hs with cache := Cache.Config.storable_of_ofDocument hread }
  · exact Document.Field.keeps_of fun _ _ _ hread hs =>
      { hs with rateLimit := Rate.Config.storable_of_ofDocument hread }
  · exact Document.Field.keeps_of fun _ _ _ hread hs =>
      { hs with retry := Retry.Config.storable_of_ofDocument hread }

theorem storable_of_read {text : String} (h : read text = .ok s) : s.Storable := by
  obtain ⟨raw, hraw, rfl⟩ := Document.exists_of_map_eq_ok h
  obtain ⟨d, -, hd⟩ := Document.read_of_readAs hraw
  have hstorable := storable_of_ofDocument hd
  exact ⟨hstorable.cache.coerced, hstorable.rateLimit.coerced, hstorable.retry.coerced⟩

/-- A variable's value has every property that the default and all readable values have. -/
theorem valueOr_induction {α : Type} {P : α → Prop} {read : String → Option α} {default : α}
    (lookup : String → Option String) (name : String) (hdefault : P default)
    (hread : ∀ t a, read t = some a → P a) : P (valueOr lookup name read default) := by
  unfold valueOr
  cases hvalue : (lookup name).bind fun t => read (Text.trim t) with
  | none => exact hdefault
  | some a =>
    obtain ⟨t, -, ht⟩ := Option.bind_eq_some_iff.1 hvalue
    exact hread _ a ht

theorem storable_of_readMillis (t : String) (d : Nat) (h : readMillis t = some d) :
    Time.Storable d := by
  obtain ⟨ms, hms, rfl⟩ := Option.map_eq_some_iff.1 h
  exact ⟨ms, Number.le_of_readNatural hms, rfl⟩

theorem storable_ofVariables (lookup : String → Option String) : (ofVariables lookup).Storable := by
  have hmillis : ∀ name default, Time.Storable default →
      Time.Storable (valueOr lookup name readMillis default) := fun name default hdefault =>
    valueOr_induction lookup name hdefault storable_of_readMillis
  have hcache := Cache.Config.storable_default
  have hsize : valueOr lookup "CACHE_MAX_SIZE" (Number.readNatural Number.wordLimit)
      ({} : Cache.Config).maxSize ≤ Number.wordLimit :=
    valueOr_induction (P := (· ≤ Number.wordLimit)) lookup _ hcache.maxSize_le fun _ _ =>
      Number.le_of_readNatural
  have hretry := Retry.Config.storable_default
  have hfirst := (hmillis "RETRY_INITIAL_BACKOFF_MS" _ hretry.initialBackoff).max
    Time.storable_shortest
  exact
    { cache :=
        { defaultTtl := (hmillis _ _ hcache.defaultTtl).max Time.storable_shortest
          maxSize_le := Nat.max_le.2 ⟨hsize, by decide⟩
          sweepInterval := (hmillis _ _ hcache.sweepInterval).max Time.storable_shortest }
      rateLimit := ⟨Rate.Config.storable_default.pollInterval⟩
      retry :=
        { initialBackoff := hfirst
          maxBackoff := (hmillis _ _ hretry.maxBackoff).max hfirst } }

/-- Settings are read back from their text, if they are valid and their durations and counts fit. -/
theorem read_write_of_valid (hstorable : s.Storable) (hvalid : s.Valid)
    (hfactor : Document.readAs (Document.asFloat "f64") (Document.float s.retry.factor).write =
      .ok s.retry.factor)
    (hjitter : Document.readAs (Document.asFloat "f64") (Document.float s.retry.jitter).write =
      .ok s.retry.jitter) : read s.write = .ok s := by
  have hport : s.port.toNat ≤ Number.word16Limit := Nat.le_of_lt_succ s.port.toNat_lt
  have hretry := Retry.Config.loads_write hstorable.retry (Document.loads_float hfactor)
    (Document.loads_float hjitter)
  have hmembers := loads_members
    (.some (Document.loads_natural "u16" hport (by decide)))
    (.some (Cache.Config.loads_write hstorable.cache))
    (.some (Rate.Config.loads_write hstorable.rateLimit)) (.some hretry)
  have hloads : Loads ofDocument s.write { s with port := UInt16.ofNat s.port.toNat } := by
    rw [write, toDocument, Document.write_record]
    exact hmembers
  rw [UInt16.ofNat_toNat] at hloads
  rw [read, hloads.readAs_eq, Except.map, coerced_eq_iff.2 hvalid]

/-- Settings that were loaded, from a text or from variables, are read back from their own text. -/
theorem read_write_of_loaded
    (hloaded : (∃ text, read text = .ok s) ∨ ∃ lookup, ofVariables lookup = s)
    (hfactor : Document.readAs (Document.asFloat "f64") (Document.float s.retry.factor).write =
      .ok s.retry.factor)
    (hjitter : Document.readAs (Document.asFloat "f64") (Document.float s.retry.jitter).write =
      .ok s.retry.jitter) : read s.write = .ok s := by
  rcases hloaded with ⟨text, htext⟩ | ⟨lookup, rfl⟩
  · exact read_write_of_valid (storable_of_read htext) (valid_of_read htext) hfactor hjitter
  · exact read_write_of_valid (storable_ofVariables lookup) (valid_ofVariables lookup) hfactor
      hjitter

/-- The largest durations and counts there are, and a jitter that had to be rounded. -/
theorem read_write_of_loaded_largest :
    let largest := toString Number.wordLimit
    let lookup := fun name : String =>
      if name = "RETRY_MAX_RETRIES" then some (toString Number.word32Limit)
      else if name = "RETRY_JITTER_FACTOR" then some "0.3"
      else if name = "CACHE_MAX_SIZE" ∨ name.endsWith "_MS" then some largest
      else none
    let s := ofVariables lookup
    s.cache.defaultTtl = Number.wordLimit * Time.millisecond ∧
      s.retry.initialBackoff = Number.wordLimit * Time.millisecond ∧ s.retry.jitter = 0.3 ∧
      read s.write = .ok s := by
  intro largest lookup s
  refine ⟨by decide +kernel, by decide +kernel, by decide +kernel, ?_⟩
  exact read_write_of_loaded (.inr ⟨lookup, rfl⟩) (Document.eq_ok_of_toOption (by decide +kernel))
    (Document.eq_ok_of_toOption (by decide +kernel))

end Settings

end Resilience
