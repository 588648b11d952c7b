import Resilience.Proofs.Number.Digits
import Resilience.Proofs.Settings.Members
import Resilience.Settings.Variables

/-!
# Settings from variables and from a document

Values for some of the settings (`Assignment`) can be given as variables or as a document. Variables
are put through the setters one after the other, on top of the defaults ; a document fills in the
fields and has all of them put through their setters at the end. The results agree, whichever values
are given (`read_document_eq`).

Only the two waits between attempts depend on each other. Both ways raise the longest wait to the
first after the first is known, and to the first only.

The floats are given by texts, and assumed to be read alike by both readers (`ReadAlike`).
-/

namespace Resilience

/-! ## Texts without blanks -/

theorem Text.trim_eq {s : String} (h : ∀ c ∈ s.toList, isBlank c = false) : trim s = s := by
  have hdrop : ∀ cs : List Char, (∀ c ∈ cs, isBlank c = false) → cs.dropWhile isBlank = cs := by
    intro cs hcs
    cases cs with
    | nil => rfl
    | cons c cs => rw [List.dropWhile_cons_of_neg (by simp [hcs c List.mem_cons_self])]
  have hreverse : ∀ c ∈ s.toList.reverse, isBlank c = false := fun c hc =>
    h c (List.mem_reverse.1 hc)
  rw [trim, trimChars, hdrop _ h, hdrop _ hreverse, List.reverse_reverse, String.ofList_toList]

theorem Number.isBlank_of_isDigit {c : Char} (h : isDigit c = true) : Text.isBlank c = false := by
  have hrange : 0x30 ≤ c.toNat ∧ c.toNat ≤ 0x39 := by
    simpa [isDigit, Char.le_def, UInt32.le_iff_toNat_le] using h
  rw [← Bool.not_eq_true]
  intro hblank
  simp only [Text.isBlank, Bool.or_eq_true, Bool.and_eq_true, decide_eq_true_eq, beq_iff_eq,
    ← UInt32.toNat_inj, UInt32.le_iff_toNat_le, UInt32.reduceToNat, Char.toNat_val] at hblank
  omega

theorem Number.trim_toString (n : Nat) : Text.trim (toString n) = toString n := by
  refine Text.trim_eq fun c hc => isBlank_of_isDigit ?_
  rw [Nat.toString_eq_ofList_toDigits, String.toList_ofList] at hc
  exact isDigit_of_mem_toDigits hc

namespace Settings

open Document (Loads Spelled braces given)

/-! ## Assignments -/

/-- Values for some of the settings, durations in milliseconds and floats as texts. -/
structure Assignment where
  port : Option UInt16 := none
  cacheEnabled : Option Bool := none
  defaultTtl : Option UInt64 := none
  maxSize : Option UInt64 := none
  sweepInterval : Option UInt64 := none
  policy : Option Cache.Policy := none
  rateLimitEnabled : Option Bool := none
  requestsPerSecond : Option UInt32 := none
  burst : Option UInt32 := none
  maxRetries : Option UInt32 := none
  initialBackoff : Option UInt64 := none
  maxBackoff : Option UInt64 := none
  factor : Option String := none
  jitter : Option String := none

namespace Assignment

/-- A truth value as it is written. -/
def boolText (b : Bool) : String := if b then "true" else "false"

/-- The variables that hold the values' texts. -/
def lookup (a : Assignment) : String → Option String
  | "SERVER_PORT" => a.port.map fun n => toString n.toNat
  | "CACHE_ENABLED" => a.cacheEnabled.map boolText
  | "CACHE_DEFAULT_TTL_MS" => a.defaultTtl.map fun n => toString n.toNat
  | "CACHE_MAX_SIZE" => a.maxSize.map fun n => toString n.toNat
  | "CACHE_SWEEP_INTERVAL_MS" => a.sweepInterval.map fun n => toString n.toNat
  | "CACHE_EVICTION" => a.policy.map Cache.Policy.name
  | "RATE_LIMIT_ENABLED" => a.rateLimitEnabled.map boolText
  | "RATE_LIMIT_RPS" => a.requestsPerSecond.map fun n => toString n.toNat
  | "RATE_LIMIT_BURST" => a.burst.map fun n => toString n.toNat
  | "RETRY_MAX_RETRIES" => a.maxRetries.map fun n => toString n.toNat
  | "RETRY_INITIAL_BACKOFF_MS" => a.initialBackoff.map fun n => toString n.toNat
  | "RETRY_MAX_BACKOFF_MS" => a.maxBackoff.map fun n => toString n.toNat
  | "RETRY_BACKOFF_FACTOR" => a.factor
  | "RETRY_JITTER_FACTOR" => a.jitter
  | _ => none

/-- The members of the object for the cache. -/
def cacheMembers (a : Assignment) : List (String × String) :=
  given
    [ ("enabled", a.cacheEnabled.map boolText),
      ("default_ttl_ms", a.defaultTtl.map fun n => toString n.toNat),
      ("max_size", a.maxSize.map fun n => toString n.toNat),
      ("sweep_interval_ms", a.sweepInterval.map fun n => toString n.toNat),
      ("eviction", a.policy.map fun p => Document.quote p.name) ]

/-- The members of the object for the rate limit. -/
def rateLimitMembers (a : Assignment) : List (String × String) :=
  given
    [ ("enabled", a.rateLimitEnabled.map boolText),
      ("requests_per_second", a.requestsPerSecond.map fun n => toString n.toNat),
      ("burst_size", a.burst.map fun n => toString n.toNat) ]

/-- The members of the object for retries. -/
def retryMembers (a : Assignment) : List (String × String) :=
  given
    [ ("max_retries", a.maxRetries.map fun n => toString n.toNat),
      ("initial_backoff_ms", a.initialBackoff.map fun n => toString n.toNat),
      ("max_backoff_ms", a.maxBackoff.map fun n => toString n.toNat),
      ("backoff_factor", a.factor),
      ("jitter_factor", a.jitter) ]

/-- The text of a component's object, which may be left out if it has no members. -/
def object? (written : Bool) (ms : List (String × String)) : Option String :=
  if ms = [] ∧ ¬written then none else some (braces ms)

/-- The document that holds the values. `written` says which components have an object though none
of their values is given. -/
def document (a : Assignment) (written : String → Bool) : String :=
  braces (given
    [ ("server_port", a.port.map fun n => toString n.toNat),
      ("cache", object? (written "cache") a.cacheMembers),
      ("rate_limit", object? (written "rate_limit") a.rateLimitMembers),
      ("retry", object? (written "retry") a.retryMembers) ])

/-! ## The settings before any is put through its setter -/

/-- The cache's configuration with the values given, and the default for the others. -/
def cache (a : Assignment) : Cache.Config :=
  let start : Cache.Config := {}
  { enabled := a.cacheEnabled.getD start.enabled
    defaultTtl := (a.defaultTtl.map fun n => Time.ofMillis n.toNat).getD start.defaultTtl
    maxSize := (a.maxSize.map UInt64.toNat).getD start.maxSize
    sweepInterval := (a.sweepInterval.map fun n => Time.ofMillis n.toNat).getD start.sweepInterval
    policy := a.policy.getD start.policy }

/-- The limiter's configuration with the values given, and the default for the others. -/
def rateLimit (a : Assignment) : Rate.Config :=
  let start : Rate.Config := {}
  { enabled := a.rateLimitEnabled.getD start.enabled
    requestsPerSecond := a.requestsPerSecond.getD start.requestsPerSecond
    burst := a.burst.getD start.burst }

/-- The configuration of retries with the values given, and the default for the others. -/
def retry (a : Assignment) : Retry.Config :=
  let start : Retry.Config := {}
  { maxRetries := a.maxRetries.getD start.maxRetries
    initialBackoff := (a.initialBackoff.map fun n => Time.ofMillis n.toNat).getD
      start.initialBackoff
    maxBackoff := (a.maxBackoff.map fun n => Time.ofMillis n.toNat).getD start.maxBackoff
    factor := (a.factor.bind fun t => Number.readFloat (Text.trim t)).getD start.factor
    jitter := (a.jitter.bind fun t => Number.readFloat (Text.trim t)).getD start.jitter }

/-- The values that are given, over the defaults. -/
def settings (a : Assignment) : Settings :=
  { port := a.port.getD ({} : Settings).port
    cache := a.cache
    rateLimit := a.rateLimit
    retry := a.retry }

/-! ## As a document -/

/-- Both readers of floats read the text as the same float. -/
def ReadAlike (t : String) : Prop :=
  ∃ x, Number.readFloat (Text.trim t) = some x ∧
    Document.readAs (Document.asFloat "f64") t = .ok x

variable {a : Assignment}

theorem loads_bool (b : Bool) : Loads (Document.asBool "a boolean") (boolText b) b :=
  Document.loads_bool _ b

theorem loads_millis (n : UInt64) :
    Loads (Document.asMillis "u64") (toString n.toNat) (Time.ofMillis n.toNat) :=
  Document.loads_millis _ (Nat.le_of_lt_succ n.toNat_lt)

/-- The object for the cache holds the values given for it. -/
theorem loads_cacheMembers (a : Assignment) :
    Loads Cache.Config.ofDocument (braces a.cacheMembers) a.cache := by
  have hmembers := Cache.Config.loads_members (.map fun b (_ : b ∈ a.cacheEnabled) => loads_bool b)
    (.map fun n (_ : n ∈ a.defaultTtl) => loads_millis n)
    (.map fun n (_ : n ∈ a.maxSize) =>
      Document.loads_natural _ (Nat.le_of_lt_succ n.toNat_lt) (Nat.le_refl _))
    (.map fun n (_ : n ∈ a.sweepInterval) => loads_millis n)
    (.map fun p (_ : p ∈ a.policy) => Document.loads_choice _ (Cache.Policy.ofName?_name p))
  simpa [cacheMembers, cache, Function.comp_def] using hmembers

theorem loads_rateLimitMembers (a : Assignment) :
    Loads Rate.Config.ofDocument (braces a.rateLimitMembers) a.rateLimit := by
  have hpoll : Spelled (Document.asMillis "u64") none := nofun
  have hmembers := Rate.Config.loads_members
    (.map fun b (_ : b ∈ a.rateLimitEnabled) => loads_bool b)
    (.map fun n (_ : n ∈ a.requestsPerSecond) => Document.loads_word32 n)
    (.map fun n (_ : n ∈ a.burst) => Document.loads_word32 n) hpoll
  rw [rateLimitMembers, ← Document.given_concat_none _ "poll_interval_ms"]
  simpa [rateLimit, Function.comp_def] using hmembers

/-- What a float's text is read as, on either way. -/
theorem loads_factor {t : String} (h : ReadAlike t) :
    Loads (Document.asFloat "f64") t ((Number.readFloat (Text.trim t)).getD 0) := by
  obtain ⟨x, hread, hdocument⟩ := h
  rw [hread]
  exact Document.loads_float hdocument

theorem getD_map_readFloat {t? : Option String} (h : ∀ t ∈ t?, ReadAlike t) (x : Float) :
    (t?.map fun t => (Number.readFloat (Text.trim t)).getD 0).getD x =
      (t?.bind fun t => Number.readFloat (Text.trim t)).getD x := by
  cases t? with
  | none => rfl
  | some t =>
    obtain ⟨y, hread, -⟩ := h t rfl
    simp [hread]

/-- The object for retries does, if its numbers with a point are read alike. -/
theorem loads_retryMembers (hfactor : ∀ t ∈ a.factor, ReadAlike t)
    (hjitter : ∀ t ∈ a.jitter, ReadAlike t) :
    Loads Retry.Config.ofDocument (braces a.retryMembers) a.retry := by
  have hmembers := Retry.Config.loads_members
    (.map fun n (_ : n ∈ a.maxRetries) => Document.loads_word32 n)
    (.map fun n (_ : n ∈ a.initialBackoff) => loads_millis n)
    (.map fun n (_ : n ∈ a.maxBackoff) => loads_millis n)
    (.map fun t ht => loads_factor (hfactor t ht)) (.map fun t ht => loads_factor (hjitter t ht))
  simpa [retryMembers, retry, Function.comp_def, getD_map_readFloat hfactor,
    getD_map_readFloat hjitter] using hmembers

/-- The object that may be left out holds the defaults. -/
theorem spelled_object? {α : Type} {f : Document → Except Document.Refusal α} (start : α)
    (hstart : Loads f (braces []) start) {ms : List (String × String)} {c : α}
    (h : Loads f (braces ms) c) (written : Bool) :
    Spelled f ((object? written ms).map fun t => (t, c)) ∧
      ((object? written ms).map fun _ => c).getD start = c := by
  unfold object?
  split
  · rename_i hempty
    rw [hempty.1] at h
    exact ⟨nofun, Except.ok.inj (hstart.readAs_eq.symm.trans h.readAs_eq)⟩
  · exact ⟨.some h, rfl⟩

/-- The document with all values given holds the settings with these values. -/
theorem loads_document (hfactor : ∀ t ∈ a.factor, ReadAlike t)
    (hjitter : ∀ t ∈ a.jitter, ReadAlike t) (written : String → Bool) :
    Loads ofDocument (a.document written) a.settings := by
  obtain ⟨hcache, hcacheEq⟩ := spelled_object? ({} : Cache.Config) (loads_cacheMembers {})
    a.loads_cacheMembers (written "cache")
  obtain ⟨hrate, hrateEq⟩ := spelled_object? ({} : Rate.Config) (loads_rateLimitMembers {})
    a.loads_rateLimitMembers (written "rate_limit")
  have hstart : Loads Retry.Config.ofDocument (braces (retryMembers {})) (retry {}) :=
    loads_retryMembers nofun nofun
  obtain ⟨hretry, hretryEq⟩ := spelled_object? ({} : Retry.Config) hstart
    (loads_retryMembers hfactor hjitter) (written "retry")
  have hmembers := loads_members
    (.map fun n (_ : n ∈ a.port) =>
      Document.loads_natural _ (Nat.le_of_lt_succ n.toNat_lt) (by decide))
    hcache hrate hretry
  have hport : UInt16.ofNat ((a.port.map UInt16.toNat).getD ({} : Settings).port.toNat) =
      a.port.getD ({} : Settings).port := by
    cases a.port <;> exact UInt16.ofNat_toNat
  simp only [Option.map_map, Function.comp_def, hcacheEq, hrateEq, hretryEq, hport] at hmembers
  simpa only [document, settings, Option.map_id'] using hmembers

/-! ## As variables -/

/-- The value of a variable whose text is read as what it stands for. -/
theorem valueOr_eq {α β : Type} {read : String → Option α} {text : β → String} {value : β → α}
    (lookup : String → Option String) (name : String) (b? : Option β) (default : α)
    (hread : ∀ b, read (Text.trim (text b)) = some (value b)) (h : lookup name = b?.map text) :
    valueOr lookup name read default = (b?.map value).getD default := by
  rw [valueOr, h]
  cases b? with
  | none => rfl
  | some b => simp [hread b]

theorem readBool_boolText (b : Bool) : readBool (Text.trim (boolText b)) = some b := by
  cases b <;> decide

theorem readPolicy_name (p : Cache.Policy) : readPolicy (Text.trim p.name) = some p := by
  cases p <;> decide +kernel

theorem readMillis_toString (n : UInt64) :
    readMillis (Text.trim (toString n.toNat)) = some (Time.ofMillis n.toNat) := by
  have hn : n.toNat ≤ Number.wordLimit := Nat.le_of_lt_succ n.toNat_lt
  rw [Number.trim_toString, readMillis, Number.readNatural_toString hn, Option.map_some]

theorem readSize_toString (n : UInt64) :
    Number.readNatural Number.wordLimit (Text.trim (toString n.toNat)) = some n.toNat := by
  have hn : n.toNat ≤ Number.wordLimit := Nat.le_of_lt_succ n.toNat_lt
  rw [Number.trim_toString, Number.readNatural_toString hn]

theorem readWord32_toString (n : UInt32) :
    readWord32 (Text.trim (toString n.toNat)) = some n := by
  have hn : n.toNat ≤ Number.word32Limit := Nat.le_of_lt_succ n.toNat_lt
  rw [Number.trim_toString, readWord32, Number.readNatural_toString hn, Option.map_some,
    UInt32.ofNat_toNat]

theorem readWord16_toString (n : UInt16) :
    readWord16 (Text.trim (toString n.toNat)) = some n := by
  have hn : n.toNat ≤ Number.word16Limit := Nat.le_of_lt_succ n.toNat_lt
  rw [Number.trim_toString, readWord16, Number.readNatural_toString hn, Option.map_some,
    UInt16.ofNat_toNat]

/-- The variables hold the same values for the cache, put through their setters. -/
theorem cacheOf_lookup (a : Assignment) : cacheOf a.lookup = a.cache.coerced := by
  have value {α β : Type} {read : String → Option α} {text : β → String} {value : β → α} :=
    @valueOr_eq α β read text value a.lookup
  simp only [cacheOf, value "CACHE_ENABLED" a.cacheEnabled _ readBool_boolText rfl,
    value "CACHE_DEFAULT_TTL_MS" a.defaultTtl _ readMillis_toString rfl,
    value "CACHE_MAX_SIZE" a.maxSize _ readSize_toString rfl,
    value "CACHE_SWEEP_INTERVAL_MS" a.sweepInterval _ readMillis_toString rfl,
    value "CACHE_EVICTION" a.policy _ readPolicy_name rfl, Option.map_id']
  rfl

theorem rateLimitOf_lookup (a : Assignment) :
    rateLimitOf a.lookup = a.rateLimit.coerced := by
  have value {α β : Type} {read : String → Option α} {text : β → String} {value : β → α} :=
    @valueOr_eq α β read text value a.lookup
  simp only [rateLimitOf, value "RATE_LIMIT_ENABLED" a.rateLimitEnabled _ readBool_boolText rfl,
    value "RATE_LIMIT_RPS" a.requestsPerSecond _ readWord32_toString rfl,
    value "RATE_LIMIT_BURST" a.burst _ readWord32_toString rfl, Option.map_id']
  have hpoll : max a.rateLimit.pollInterval Time.shortest = a.rateLimit.pollInterval :=
    Nat.max_eq_left (by decide : Time.shortest ≤ ({} : Rate.Config).pollInterval)
  rw [Rate.Config.coerced, Rate.Config.withPollInterval, hpoll]
  rfl

/-- The longest wait is raised to the first after the first is known, both in the order of the
setters and in coercion. -/
theorem retryOf_lookup (a : Assignment) : retryOf a.lookup = a.retry.coerced := by
  have value {α β : Type} {read : String → Option α} {text : β → String} {value : β → α} :=
    @valueOr_eq α β read text value a.lookup
  simp only [retryOf, value "RETRY_MAX_RETRIES" a.maxRetries _ readWord32_toString rfl,
    value "RETRY_INITIAL_BACKOFF_MS" a.initialBackoff _ readMillis_toString rfl,
    value "RETRY_MAX_BACKOFF_MS" a.maxBackoff _ readMillis_toString rfl, Option.map_id']
  rfl

/-- The variables hold the same settings, with every value put through its setter. -/
theorem ofVariables_lookup (a : Assignment) : ofVariables a.lookup = a.settings.coerced := by
  rw [ofVariables, cacheOf_lookup, rateLimitOf_lookup, retryOf_lookup,
    valueOr_eq a.lookup "SERVER_PORT" a.port _ readWord16_toString rfl, Option.map_id']
  rfl

end Assignment

/-- Values given as variables and the same values given in a document make the same settings,
whichever of them are given. -/
theorem read_document_eq (a : Assignment) (written : String → Bool)
    (hfactor : ∀ t ∈ a.factor, Assignment.ReadAlike t)
    (hjitter : ∀ t ∈ a.jitter, Assignment.ReadAlike t) :
    read (a.document written) = .ok (ofVariables a.lookup) := by
  rw [read, (Assignment.loads_document hfactor hjitter written).readAs_eq, Except.map,
    a.ofVariables_lookup]

/-- A first wait above the longest, with values for two components and none for the others. -/
theorem read_document_eq_of_coupled_waits :
    let a : Assignment :=
      { maxSize := some 0, policy := some .lfu, initialBackoff := some 500, maxBackoff := some 0,
        factor := some "1.5e0", jitter := some "2" }
    a.document (fun _ => false) =
        "\x7b\"cache\":\x7b\"max_size\":0,\"eviction\":\"lfu\"\x7d,\"retry\":\x7b" ++
          "\"initial_backoff_ms\":500,\"max_backoff_ms\":0,\"backoff_factor\":1.5e0," ++
            "\"jitter_factor\":2\x7d\x7d" ∧
      (ofVariables a.lookup).retry.maxBackoff = 500 * Time.millisecond ∧
      read (a.document fun _ => false) = .ok (ofVariables a.lookup) := by
  intro a
  refine ⟨by decide +kernel, by decide +kernel, read_document_eq a _ ?_ ?_⟩
  · rintro _ ⟨⟩
    exact ⟨1.5, by decide +kernel, Document.eq_ok_of_toOption (by decide +kernel)⟩
  · rintro _ ⟨⟩
    exact ⟨2, by decide +kernel, Document.eq_ok_of_toOption (by decide +kernel)⟩

end Settings

end Resilience
