import Resilience.Proofs.Settings.Facets

/-!
# Settings from some of their members

An object that gives values to some of the fields of a configuration holds the configuration with
these values and with the defaults in the other fields, whichever fields they are. Each value comes
with its text (`Document.Spelled`).
-/

namespace Resilience

open Document (Loads Spelled braces given asBool asMillis asNatural asWord32 asChoice asFloat)

/-- An object holds the cache's configuration that its members spell, with the defaults for those
left out. -/
theorem Cache.Config.loads_members {enabled? : Option (String × Bool)}
    {ttl? size? sweep? : Option (String × Nat)} {policy? : Option (String × Policy)}
    (henabled : Spelled (asBool "a boolean") enabled?) (httl : Spelled (asMillis "u64") ttl?)
    (hsize : Spelled (asNatural "usize" Number.wordLimit) size?)
    (hsweep : Spelled (asMillis "u64") sweep?)
    (hpolicy : Spelled (asChoice (Policy.all.map Policy.name) Policy.ofName?) policy?) :
    let start : Config := {}
    Loads ofDocument
      (braces (given
        [ ("enabled", enabled?.map Prod.fst),
          ("default_ttl_ms", ttl?.map Prod.fst),
          ("max_size", size?.map Prod.fst),
          ("sweep_interval_ms", sweep?.map Prod.fst),
          ("eviction", policy?.map Prod.fst) ]))
      { enabled := (enabled?.map Prod.snd).getD start.enabled
        defaultTtl := (ttl?.map Prod.snd).getD start.defaultTtl
        maxSize := (size?.map Prod.snd).getD start.maxSize
        sweepInterval := (sweep?.map Prod.snd).getD start.sweepInterval
        policy := (policy?.map Prod.snd).getD start.policy } :=
  Document.loads_braces "CacheConfig" [enabledFacet.filling henabled, defaultTtlFacet.filling httl,
    maxSizeFacet.filling hsize, sweepIntervalFacet.filling hsweep, policyFacet.filling hpolicy] {}
    layout_facets.nodup

theorem Rate.Config.loads_members {enabled? : Option (String × Bool)}
    {rate? burst? : Option (String × UInt32)} {poll? : Option (String × Nat)}
    (henabled : Spelled (asBool "a boolean") enabled?) (hrate : Spelled asWord32 rate?)
    (hburst : Spelled asWord32 burst?) (hpoll : Spelled (asMillis "u64") poll?) :
    let start : Config := {}
    Loads ofDocument
      (braces (given
        [ ("enabled", enabled?.map Prod.fst),
          ("requests_per_second", rate?.map Prod.fst),
          ("burst_size", burst?.map Prod.fst),
          ("poll_interval_ms", poll?.map Prod.fst) ]))
      { enabled := (enabled?.map Prod.snd).getD start.enabled
        requestsPerSecond := (rate?.map Prod.snd).getD start.requestsPerSecond
        burst := (burst?.map Prod.snd).getD start.burst
        pollInterval := (poll?.map Prod.snd).getD start.pollInterval } :=
  Document.loads_braces "RateLimitConfig" [enabledFacet.filling henabled,
    requestsPerSecondFacet.filling hrate, burstFacet.filling hburst,
    pollIntervalFacet.filling hpoll] {} layout_facets.nodup

theorem Retry.Config.loads_members {retries? : Option (String × UInt32)}
    {first? longest? : Option (String × Nat)} {factor? jitter? : Option (String × Float)}
    (hretries : Spelled asWord32 retries?) (hfirst : Spelled (asMillis "u64") first?)
    (hlongest : Spelled (asMillis "u64") longest?) (hfactor : Spelled (asFloat "f64") factor?)
    (hjitter : Spelled (asFloat "f64") jitter?) :
    let start : Config := {}
    Loads ofDocument
      (braces (given
        [ ("max_retries", retries?.map Prod.fst),
          ("initial_backoff_ms", first?.map Prod.fst),
          ("max_backoff_ms", longest?.map Prod.fst),
          ("backoff_factor", factor?.map Prod.fst),
          ("jitter_factor", jitter?.map Prod.fst) ]))
      { maxRetries := (retries?.map Prod.snd).getD start.maxRetries
        initialBackoff := (first?.map Prod.snd).getD start.initialBackoff
        maxBackoff := (longest?.map Prod.snd).getD start.maxBackoff
        factor := (factor?.map Prod.snd).getD start.factor
        jitter := (jitter?.map Prod.snd).getD start.jitter } :=
  Document.loads_braces "RetryConfig" [maxRetriesFacet.filling hretries,
    initialBackoffFacet.filling hfirst, maxBackoffFacet.filling hlongest,
    factorFacet.filling hfactor, jitterFacet.filling hjitter] {} layout_facets.nodup

theorem Settings.loads_members {port? : Option (String × Nat)}
    {cache? : Option (String × Cache.Config)} {rateLimit? : Option (String × Rate.Config)}
    {retryConfig? : Option (String × Retry.Config)}
    (hport : Spelled (asNatural "u16" Number.word16Limit) port?)
    (hcache : Spelled Cache.Config.ofDocument cache?)
    (hrateLimit : Spelled Rate.Config.ofDocument rateLimit?)
    (hretry : Spelled Retry.Config.ofDocument retryConfig?) :
    let start : Settings := {}
    Loads ofDocument
      (braces (given
        [ ("server_port", port?.map Prod.fst),
          ("cache", cache?.map Prod.fst),
          ("rate_limit", rateLimit?.map Prod.fst),
          ("retry", retryConfig?.map Prod.fst) ]))
      { port := UInt16.ofNat ((port?.map Prod.snd).getD start.port.toNat)
        cache := (cache?.map Prod.snd).getD start.cache
        rateLimit := (rateLimit?.map Prod.snd).getD start.rateLimit
        retry := (retryConfig?.map Prod.snd).getD start.retry } :=
  Document.loads_braces "Settings" [portFacet.filling hport, cacheFacet.filling hcache,
    rateLimitFacet.filling hrateLimit, retryFacet.filling hretry] {} layout_facets.nodup

end Resilience
