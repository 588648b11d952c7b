import Resilience.Settings.Basic
import Resilience.Text.Blank

/-!
# Settings from named variables

Every setting but the poll interval has a variable. A variable that is missing, or whose text is no
value of the setting, leaves the default. Values pass through the setters in a fixed order, so that
what is loaded is valid.
-/

namespace Resilience.Settings

/-- Reads one of the two words for a truth value. -/
def readBool (s : String) : Option Bool :=
  if s = "true" then some true else if s = "false" then some false else none

/-- Reads a duration as a whole number of milliseconds. -/
def readMillis (s : String) : Option Nat :=
  (Number.readNatural Number.wordLimit s).map Time.ofMillis

/-- The value of the variable `name`, blanks around its text aside, or the default. -/
def valueOr {α : Type} (lookup : String → Option String) (name : String)
    (read : String → Option α) (default : α) : α :=
  ((lookup name).bind fun s => read (Text.trim s)).getD default

/-- Reads a whole number of 32 bits. -/
def readWord32 (s : String) : Option UInt32 :=
  (Number.readNatural Number.word32Limit s).map UInt32.ofNat

/-- Reads a whole number of 16 bits. -/
def readWord16 (s : String) : Option UInt16 :=
  (Number.readNatural Number.word16Limit s).map UInt16.ofNat

/-- Reads a policy's name. -/
def readPolicy (s : String) : Option Cache.Policy := (Cache.Policy.parse s).toOption

/-- The cache settings of the variables. -/
def cacheOf (lookup : String → Option String) : Cache.Config :=
  let start : Cache.Config := {}
  let value {α : Type} := @valueOr α lookup
  start.withEnabled (value "CACHE_ENABLED" readBool start.enabled)
    |>.withDefaultTtl (value "CACHE_DEFAULT_TTL_MS" readMillis start.defaultTtl)
    |>.withMaxSize (value "CACHE_MAX_SIZE" (Number.readNatural Number.wordLimit) start.maxSize)
    |>.withSweepInterval (value "CACHE_SWEEP_INTERVAL_MS" readMillis start.sweepInterval)
    |>.withPolicy (value "CACHE_EVICTION" readPolicy start.policy)

/-- The rate limit settings of the variables. -/
def rateLimitOf (lookup : String → Option String) : Rate.Config :=
  let start : Rate.Config := {}
  let value {α : Type} := @valueOr α lookup
  start.withEnabled (value "RATE_LIMIT_ENABLED" readBool start.enabled)
    |>.withRequestsPerSecond (value "RATE_LIMIT_RPS" readWord32 start.requestsPerSecond)
    |>.withBurst (value "RATE_LIMIT_BURST" readWord32 start.burst)

/-- The retry settings of the variables. -/
def retryOf (lookup : String → Option String) : Retry.Config :=
  let start : Retry.Config := {}
  let value {α : Type} := @valueOr α lookup
  start.withMaxRetries (value "RETRY_MAX_RETRIES" readWord32 start.maxRetries)
    |>.withInitialBackoff (value "RETRY_INITIAL_BACKOFF_MS" readMillis start.initialBackoff)
    |>.withMaxBackoff (value "RETRY_MAX_BACKOFF_MS" readMillis start.maxBackoff)
    |>.withFactor (value "RETRY_BACKOFF_FACTOR" Number.readFloat start.factor)
    |>.withJitter (value "RETRY_JITTER_FACTOR" Number.readFloat start.jitter)

/-- The settings of the variables. -/
def ofVariables (lookup : String → Option String) : Settings :=
  { port := valueOr lookup "SERVER_PORT" readWord16 ({} : Settings).port
    cache := cacheOf lookup
    rateLimit := rateLimitOf lookup
    retry := retryOf lookup }

end Resilience.Settings
