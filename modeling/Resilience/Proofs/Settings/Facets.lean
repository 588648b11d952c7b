import Resilience.Proofs.Document.Arrangement
import Resilience.Settings.Basic

/-!
# The facets of settings

Every configuration is a record of facets, one for each field of its document, and the settings are
a record of a port and three such records.
-/

namespace Resilience

open Document (Facet Layout asBool asMillis asNatural asWord32 asChoice asFloat)

namespace Cache.Config

/-- Whether there is a cache. -/
def enabledFacet : Facet Config :=
  ⟨"enabled", asBool "a boolean", enabled, fun b c => { c with enabled := b }, fun _ => rfl,
    fun _ _ _ => rfl⟩

/-- How long entries live. -/
def defaultTtlFacet : Facet Config :=
  ⟨"default_ttl_ms", asMillis "u64", defaultTtl, fun d c => { c with defaultTtl := d },
    fun _ => rfl, fun _ _ _ => rfl⟩

/-- How many entries are held. -/
def maxSizeFacet : Facet Config :=
  ⟨"max_size", asNatural "usize" Number.wordLimit, maxSize, fun n c => { c with maxSize := n },
    fun _ => rfl, fun _ _ _ => rfl⟩

/-- How often expired entries are swept out. -/
def sweepIntervalFacet : Facet Config :=
  ⟨"sweep_interval_ms", asMillis "u64", sweepInterval, fun d c => { c with sweepInterval := d },
    fun _ => rfl, fun _ _ _ => rfl⟩

/-- Which key is given up. -/
def policyFacet : Facet Config :=
  ⟨"eviction", asChoice (Policy.all.map Policy.name) Policy.ofName?, policy,
    fun p c => { c with policy := p }, fun _ => rfl, fun _ _ _ => rfl⟩

/-- The facets of a cache's configuration, in the order of an array. -/
def facets : List (Facet Config) :=
  [enabledFacet, defaultTtlFacet, maxSizeFacet, sweepIntervalFacet, policyFacet]

theorem layout_facets : Layout facets := by
  simp [Layout, Facet.Apart, facets, enabledFacet, defaultTtlFacet, maxSizeFacet,
    sweepIntervalFacet, policyFacet]

end Cache.Config

namespace Rate.Config

/-- Whether operations are limited. -/
def enabledFacet : Facet Config :=
  ⟨"enabled", asBool "a boolean", enabled, fun b c => { c with enabled := b }, fun _ => rfl,
    fun _ _ _ => rfl⟩

/-- How many tokens are earned a second. -/
def requestsPerSecondFacet : Facet Config :=
  ⟨"requests_per_second", asWord32, requestsPerSecond,
    fun n c => { c with requestsPerSecond := n }, fun _ => rfl, fun _ _ _ => rfl⟩

/-- How many tokens are held. -/
def burstFacet : Facet Config :=
  ⟨"burst_size", asWord32, burst, fun n c => { c with burst := n }, fun _ => rfl,
    fun _ _ _ => rfl⟩

/-- How long a waiting operation sleeps between two tries. -/
def pollIntervalFacet : Facet Config :=
  ⟨"poll_interval_ms", asMillis "u64", pollInterval, fun d c => { c with pollInterval := d },
    fun _ => rfl, fun _ _ _ => rfl⟩

/-- The facets of a limiter's configuration, in the order of an array. -/
def facets : List (Facet Config) :=
  [enabledFacet, requestsPerSecondFacet, burstFacet, pollIntervalFacet]

theorem layout_facets : Layout facets := by
  simp [Layout, Facet.Apart, facets, enabledFacet, requestsPerSecondFacet, burstFacet,
    pollIntervalFacet]

end Rate.Config

namespace Retry.Config

/-- How often a failed operation is tried again. -/
def maxRetriesFacet : Facet Config :=
  ⟨"max_retries", asWord32, maxRetries, fun n c => { c with maxRetries := n }, fun _ => rfl,
    fun _ _ _ => rfl⟩

/-- How long the first wait is. -/
def initialBackoffFacet : Facet Config :=
  ⟨"initial_backoff_ms", asMillis "u64", initialBackoff, fun d c => { c with initialBackoff := d },
    fun _ => rfl, fun _ _ _ => rfl⟩

/-- How long a wait is at most. -/
def maxBackoffFacet : Facet Config :=
  ⟨"max_backoff_ms", asMillis "u64", maxBackoff, fun d c => { c with maxBackoff := d },
    fun _ => rfl, fun _ _ _ => rfl⟩

/-- The factor from one wait to the next. -/
def factorFacet : Facet Config :=
  ⟨"backoff_factor", asFloat "f64", factor, fun x c => { c with factor := x }, fun _ => rfl,
    fun _ _ _ => rfl⟩

/-- The share by which chance changes a wait. -/
def jitterFacet : Facet Config :=
  ⟨"jitter_factor", asFloat "f64", jitter, fun x c => { c with jitter := x }, fun _ => rfl,
    fun _ _ _ => rfl⟩

/-- The facets of a configuration of retries, in the order of an array. -/
def facets : List (Facet Config) :=
  [maxRetriesFacet, initialBackoffFacet, maxBackoffFacet, factorFacet, jitterFacet]

theorem layout_facets : Layout facets := by
  simp [Layout, Facet.Apart, facets, maxRetriesFacet, initialBackoffFacet, maxBackoffFacet,
    factorFacet, jitterFacet]

end Retry.Config

namespace Settings

/-- The port, a number of 16 bits. -/
def portFacet : Facet Settings :=
  ⟨"server_port", asNatural "u16" Number.word16Limit, fun s => s.port.toNat,
    fun n s => { s with port := UInt16.ofNat n }, fun s => by rw [UInt16.ofNat_toNat],
    fun _ _ _ => rfl⟩

/-- The configuration of the cache, itself a record. -/
def cacheFacet : Facet Settings :=
  ⟨"cache", Cache.Config.ofDocument, cache, fun c s => { s with cache := c }, fun _ => rfl,
    fun _ _ _ => rfl⟩

/-- The configuration of the limiter, itself a record. -/
def rateLimitFacet : Facet Settings :=
  ⟨"rate_limit", Rate.Config.ofDocument, rateLimit, fun c s => { s with rateLimit := c },
    fun _ => rfl, fun _ _ _ => rfl⟩

/-- The configuration of retries, itself a record. -/
def retryFacet : Facet Settings :=
  ⟨"retry", Retry.Config.ofDocument, retry, fun c s => { s with retry := c }, fun _ => rfl,
    fun _ _ _ => rfl⟩

/-- The facets of the settings, in the order of an array. -/
def facets : List (Facet Settings) := [portFacet, cacheFacet, rateLimitFacet, retryFacet]

theorem layout_facets : Layout facets := by
  simp [Layout, Facet.Apart, facets, portFacet, cacheFacet, rateLimitFacet, retryFacet]

end Settings

end Resilience
