import Resilience.Cache.Config
import Resilience.Rate.Config
import Resilience.Retry.Config
import Resilience.Document.Printer

/-!
# Settings

The settings of the whole service : the port it listens on, and the configuration of cache, rate
limit and retries. They are read from a document (`Settings.read`) and written as one
(`Settings.write`); what is read is coerced at the end, so that it is valid whatever stood in the
text.
-/

namespace Resilience

/-- What can be set of the service. -/
structure Settings where
  port : UInt16 := 3000
  cache : Cache.Config := {}
  rateLimit : Rate.Config := {}
  retry : Retry.Config := {}
deriving BEq, Repr, Inhabited

namespace Settings

/-- The settings with every component's values put through their setters. -/
def coerced (s : Settings) : Settings :=
  { s with
    cache := s.cache.coerced
    rateLimit := s.rateLimit.coerced
    retry := s.retry.coerced }

/-- The fields in the order of an array. -/
def fields : List (Document.Field Settings) :=
  [ .of "server_port" (Document.asNatural "u16" Number.word16Limit)
      fun n s => { s with port := UInt16.ofNat n },
    .of "cache" Cache.Config.ofDocument fun c s => { s with cache := c },
    .of "rate_limit" Rate.Config.ofDocument fun c s => { s with rateLimit := c },
    .of "retry" Retry.Config.ofDocument fun c s => { s with retry := c } ]

/-- Reads settings as they are written. -/
def ofDocument : Document → Except Document.Refusal Settings :=
  Document.asRecord "Settings" fields {}

/-- Reads settings from a text. -/
def read (s : String) : Except Document.Refusal Settings :=
  (Document.readAs ofDocument s).map coerced

/-- The settings as a document, with every field by its name. -/
def toDocument (s : Settings) : Document :=
  .record
    [ ("server_port", .natural s.port.toNat),
      ("cache", s.cache.toDocument),
      ("rate_limit", s.rateLimit.toDocument),
      ("retry", s.retry.toDocument) ]

/-- The text of settings. -/
def write (s : Settings) : String := s.toDocument.write

/-- The sentence that refuses a text whose values are wrong. -/
def refusal? (r : Document.Refusal) : Option String :=
  r.sentence?.map ("malformed configuration: " ++ ·)

end Settings

end Resilience
