import Resilience.Settings.Variables

/-!
# Valid settings

What the components may rely on : durations and counts that are not zero, a longest wait no shorter
than the first, a factor that is finite and positive and a share between zero and one (`Valid`, for
each configuration). Every setter keeps a configuration valid, the two coupled waits included, so
that any sequence of setters does (`valid_puts`) ; the settings of the variables are such a
sequence. A configuration as it was written need not be valid, and putting all values through their
setters makes it so. That changes nothing exactly if it was valid before (`coerced_eq_iff`).

All sources of settings are taken together in `Settings.valid_of_every_source`.
-/

namespace Resilience

/-- What is not below something is a number. -/
theorem Number.isNaN_eq_false_of_le {x y : Float} (h : x ≤ y) : y.isNaN = false := by
  have hle : x.toModel.unpack.le y.toModel.unpack = true := of_decide_eq_true h
  show y.toModel.unpack.isNaN = false
  cases hy : y.toModel.unpack with
  | notANumber =>
    rw [hy] at hle
    cases hx : x.toModel.unpack <;> rw [hx] at hle <;> cases hle
  | infinity | zero | finite => rfl

theorem Number.one_le_max (n : UInt32) : 1 ≤ max n 1 := by
  show 1 ≤ if n ≤ 1 then 1 else n
  split <;> grind

theorem Number.max_one_eq {n : UInt32} (h : 1 ≤ n) : max n 1 = n := by
  show (if n ≤ 1 then 1 else n) = n
  split <;> grind

/-! ## The cache -/

namespace Cache.Config

/-- Entries live and sweeps come apart for a millisecond at least, and there is room for one. -/
structure Valid (c : Config) : Prop where
  shortest_le_defaultTtl : Time.shortest ≤ c.defaultTtl
  one_le_maxSize : 1 ≤ c.maxSize
  shortest_le_sweepInterval : Time.shortest ≤ c.sweepInterval

/-- A setter and the value it is given. -/
inductive Setter where
  | enabled (enabled : Bool)
  | defaultTtl (ttl : Nat)
  | maxSize (size : Nat)
  | sweepInterval (interval : Nat)
  | policy (policy : Policy)
deriving DecidableEq, Repr

/-- The configuration with a value put through its setter. -/
def put (c : Config) : Setter → Config
  | .enabled enabled => c.withEnabled enabled
  | .defaultTtl ttl => c.withDefaultTtl ttl
  | .maxSize size => c.withMaxSize size
  | .sweepInterval interval => c.withSweepInterval interval
  | .policy policy => c.withPolicy policy

variable {c : Config}

theorem valid_default : ({} : Config).Valid := ⟨by decide, by decide, by decide⟩

theorem Valid.put (h : c.Valid) (x : Setter) : (c.put x).Valid := by
  cases x with
  | enabled _ | policy _ => exact ⟨h.1, h.2, h.3⟩
  | defaultTtl _ => exact { h with shortest_le_defaultTtl := Nat.le_max_right _ _ }
  | maxSize _ => exact { h with one_le_maxSize := Nat.le_max_right _ _ }
  | sweepInterval _ => exact { h with shortest_le_sweepInterval := Nat.le_max_right _ _ }

/-- Whatever the order of the setters. -/
theorem valid_puts (xs : List Setter) : (xs.foldl Config.put {}).Valid :=
  xs.foldlRecOn Config.put valid_default fun _ h x _ => h.put x

theorem valid_coerced (c : Config) : c.coerced.Valid :=
  ⟨Nat.le_max_right _ _, Nat.le_max_right _ _, Nat.le_max_right _ _⟩

/-- To coerce a configuration changes it exactly if it is not valid. -/
theorem coerced_eq_iff : c.coerced = c ↔ c.Valid := by
  refine ⟨fun h => h ▸ c.valid_coerced, fun h => ?_⟩
  unfold coerced withSweepInterval withMaxSize withDefaultTtl
  rw [Nat.max_eq_left h.shortest_le_defaultTtl, Nat.max_eq_left h.one_le_maxSize,
    Nat.max_eq_left h.shortest_le_sweepInterval]

end Cache.Config

/-! ## The rate limit -/

namespace Rate.Config

/-- Tokens are earned and there is room for one, and polls come a millisecond apart at least. -/
structure Valid (c : Config) : Prop where
  one_le_requestsPerSecond : 1 ≤ c.requestsPerSecond
  one_le_burst : 1 ≤ c.burst
  shortest_le_pollInterval : Time.shortest ≤ c.pollInterval

/-- A setter and the value it is given. -/
inductive Setter where
  | enabled (enabled : Bool)
  | requestsPerSecond (n : UInt32)
  | burst (n : UInt32)
  | pollInterval (interval : Nat)
deriving DecidableEq, Repr

/-- The configuration with a value put through its setter. -/
def put (c : Config) : Setter → Config
  | .enabled enabled => c.withEnabled enabled
  | .requestsPerSecond n => c.withRequestsPerSecond n
  | .burst n => c.withBurst n
  | .pollInterval interval => c.withPollInterval interval

variable {c : Config}

theorem valid_default : ({} : Config).Valid := ⟨by decide, by decide, by decide⟩

theorem Valid.put (h : c.Valid) (x : Setter) : (c.put x).Valid := by
  cases x with
  | enabled _ => exact ⟨h.1, h.2, h.3⟩
  | requestsPerSecond n => exact { h with one_le_requestsPerSecond := Number.one_le_max n }
  | burst n => exact { h with one_le_burst := Number.one_le_max n }
  | pollInterval _ => exact { h with shortest_le_pollInterval := Nat.le_max_right _ _ }

theorem valid_puts (xs : List Setter) : (xs.foldl Config.put {}).Valid :=
  xs.foldlRecOn Config.put valid_default fun _ h x _ => h.put x

theorem valid_coerced (c : Config) : c.coerced.Valid :=
  ⟨Number.one_le_max _, Number.one_le_max _, Nat.le_max_right _ _⟩

/-- To coerce a configuration changes it exactly if it is not valid. -/
theorem coerced_eq_iff : c.coerced = c ↔ c.Valid := by
  refine ⟨fun h => h ▸ c.valid_coerced, fun h => ?_⟩
  unfold coerced withPollInterval withBurst withRequestsPerSecond
  rw [Number.max_one_eq h.one_le_requestsPerSecond, Number.max_one_eq h.one_le_burst,
    Nat.max_eq_left h.shortest_le_pollInterval]

end Rate.Config

/-! ## Retries -/

namespace Retry.Config

/-- Waits take a millisecond at least and have room to grow, by a factor that means something, and
the jitter is a share. -/
structure Valid (c : Config) : Prop where
  shortest_le_initialBackoff : Time.shortest ≤ c.initialBackoff
  initialBackoff_le_maxBackoff : c.initialBackoff ≤ c.maxBackoff
  factor_isFinite : c.factor.isFinite = true
  factor_pos : 0 < c.factor
  jitter_isNaN : c.jitter.isNaN = false
  zero_le_jitter : 0 ≤ c.jitter
  jitter_le_one : c.jitter ≤ 1

/-- A setter and the value it is given. -/
inductive Setter where
  | maxRetries (n : UInt32)
  | initialBackoff (d : Nat)
  | maxBackoff (d : Nat)
  | factor (x : Float)
  | jitter (x : Float)
deriving Repr

/-- The configuration with a value put through its setter. -/
def put (c : Config) : Setter → Config
  | .maxRetries n => c.withMaxRetries n
  | .initialBackoff d => c.withInitialBackoff d
  | .maxBackoff d => c.withMaxBackoff d
  | .factor x => c.withFactor x
  | .jitter x => c.withJitter x

variable {c : Config}

theorem valid_default : ({} : Config).Valid :=
  ⟨by decide, by decide, by decide, by decide, by decide, by decide, by decide⟩

/-- The setter leaves a factor that is finite and positive, whatever it is given. -/
theorem factor_withFactor (c : Config) (x : Float) :
    (c.withFactor x).factor.isFinite = true ∧ 0 < (c.withFactor x).factor := by
  unfold withFactor
  dsimp only
  split <;> rename_i h
  · simpa using h
  · decide

/-- The setter leaves a share from zero to one, whatever it is given. -/
theorem jitter_withJitter (c : Config) (x : Float) :
    (c.withJitter x).jitter.isNaN = false ∧ 0 ≤ (c.withJitter x).jitter ∧
      (c.withJitter x).jitter ≤ 1 := by
  unfold withJitter
  dsimp only
  split <;> rename_i hzero
  · split <;> rename_i hone
    · exact ⟨Number.isNaN_eq_false_of_le hzero, hzero, hone⟩
    · decide
  · decide

theorem Valid.put (h : c.Valid) (x : Setter) : (c.put x).Valid := by
  cases x with
  | maxRetries _ => exact ⟨h.1, h.2, h.3, h.4, h.5, h.6, h.7⟩
  | initialBackoff _ =>
    exact { h with
      shortest_le_initialBackoff := Nat.le_max_right _ _
      initialBackoff_le_maxBackoff := Nat.le_max_right _ _ }
  | maxBackoff _ => exact { h with initialBackoff_le_maxBackoff := Nat.le_max_right _ _ }
  | factor x =>
    obtain ⟨hfinite, hpos⟩ := c.factor_withFactor x
    exact { h with factor_isFinite := hfinite, factor_pos := hpos }
  | jitter x =>
    obtain ⟨hnumber, hzero, hone⟩ := c.jitter_withJitter x
    exact { h with jitter_isNaN := hnumber, zero_le_jitter := hzero, jitter_le_one := hone }

theorem valid_puts (xs : List Setter) : (xs.foldl Config.put {}).Valid :=
  xs.foldlRecOn Config.put valid_default fun _ h x _ => h.put x

/-- The first wait is raised before the longest is compared with it. -/
theorem valid_coerced (c : Config) : c.coerced.Valid := by
  obtain ⟨hfinite, hpos⟩ := c.factor_withFactor c.factor
  obtain ⟨hnumber, hzero, hone⟩ := c.jitter_withJitter c.jitter
  exact ⟨Nat.le_max_right _ _, Nat.le_max_right _ _, hfinite, hpos, hnumber, hzero, hone⟩

/-- To coerce a configuration changes it exactly if it is not valid. -/
theorem coerced_eq_iff : c.coerced = c ↔ c.Valid := by
  refine ⟨fun h => h ▸ c.valid_coerced, fun h => ?_⟩
  have hfactor : (c.factor.isFinite && decide (0 < c.factor)) = true := by
    simp [h.factor_isFinite, h.factor_pos]
  unfold coerced withJitter withFactor withMaxBackoff withInitialBackoff
  simp only [if_pos hfactor, if_pos h.zero_le_jitter, if_pos h.jitter_le_one,
    Nat.max_eq_left h.shortest_le_initialBackoff, Nat.max_eq_left h.initialBackoff_le_maxBackoff]

end Retry.Config

/-! ## All settings -/

namespace Settings

/-- Settings whose components are all configured validly. Any port will do. -/
structure Valid (s : Settings) : Prop where
  cache : s.cache.Valid
  rateLimit : s.rateLimit.Valid
  retry : s.retry.Valid

variable {s : Settings}

theorem valid_coerced (s : Settings) : s.coerced.Valid :=
  ⟨s.cache.valid_coerced, s.rateLimit.valid_coerced, s.retry.valid_coerced⟩

theorem coerced_eq_iff : s.coerced = s ↔ s.Valid := by
  refine ⟨fun h => h ▸ s.valid_coerced, fun h => ?_⟩
  unfold coerced
  rw [Cache.Config.coerced_eq_iff.2 h.cache, Rate.Config.coerced_eq_iff.2 h.rateLimit,
    Retry.Config.coerced_eq_iff.2 h.retry]

theorem valid_of_read {text : String} (h : read text = .ok s) : s.Valid := by
  unfold read at h
  cases hraw : Document.readAs ofDocument text with
  | error r =>
    rw [hraw] at h
    cases h
  | ok raw =>
    rw [hraw] at h
    cases h
    exact raw.valid_coerced

/-- The setters are called in a fixed order, with the defaults for variables that are missing. -/
theorem valid_ofVariables (lookup : String → Option String) : (ofVariables lookup).Valid where
  cache := Cache.Config.valid_puts [.enabled _, .defaultTtl _, .maxSize _, .sweepInterval _,
    .policy _]
  rateLimit := Rate.Config.valid_puts [.enabled _, .requestsPerSecond _, .burst _]
  retry := Retry.Config.valid_puts [.maxRetries _, .initialBackoff _, .maxBackoff _, .factor _,
    .jitter _]

/-- Settings are valid wherever they come from : read from a text, taken from variables, or made
from the defaults by any setters in any order. Coercion makes any settings valid, and leaves alone
those that are valid and no others. -/
theorem valid_of_every_source :
    (∀ (text : String) (s : Settings), read text = .ok s → s.Valid) ∧
      (∀ lookup : String → Option String, (ofVariables lookup).Valid) ∧
      (∀ (port : UInt16) (xs : List Cache.Config.Setter) (ys : List Rate.Config.Setter)
        (zs : List Retry.Config.Setter),
        Valid ⟨port, xs.foldl .put {}, ys.foldl .put {}, zs.foldl .put {}⟩) ∧
      ∀ s : Settings, s.coerced.Valid ∧ (s.coerced = s ↔ s.Valid) ∧
        s.coerced.coerced = s.coerced := by
  refine ⟨fun _ _ => valid_of_read, valid_ofVariables, fun _ xs ys zs => ?_, fun s => ?_⟩
  · exact ⟨Cache.Config.valid_puts xs, Rate.Config.valid_puts ys, Retry.Config.valid_puts zs⟩
  · exact ⟨s.valid_coerced, coerced_eq_iff, coerced_eq_iff.2 s.valid_coerced⟩

/-- A text that asks for a first wait longer than the longest, and for a share above one. -/
theorem valid_of_every_source_of_coupled_waits :
    let text := "\x7b\"retry\":\x7b\"initial_backoff_ms\":500,\"max_backoff_ms\":0," ++
      "\"jitter_factor\":7\x7d\x7d"
    ∃ s : Settings, read text = .ok s ∧ s.Valid ∧
      s.retry.initialBackoff = 500 * Time.millisecond ∧
      s.retry.maxBackoff = 500 * Time.millisecond := by
  intro text
  have hread : ((read text).toOption.any fun s =>
      s.retry.initialBackoff == 500 * Time.millisecond &&
        s.retry.maxBackoff == 500 * Time.millisecond) = true := by
    decide +kernel
  cases htext : read text with
  | error r =>
    rw [htext] at hread
    cases hread
  | ok s =>
    rw [htext] at hread
    have hwaits : s.retry.initialBackoff = 500 * Time.millisecond ∧
        s.retry.maxBackoff = 500 * Time.millisecond := by simpa [Except.toOption] using hread
    exact ⟨s, rfl, valid_of_every_source.1 text s htext, hwaits⟩

end Settings

end Resilience
