import Resilience.Activity.Basic
import Resilience.Activity.Operation
import Resilience.Activity.Session
import Resilience.Cache.Compute
import Resilience.Cache.Config
import Resilience.Cache.Entry
import Resilience.Cache.Expiring
import Resilience.Cache.Policy
import Resilience.Cache.Ranking
import Resilience.Cache.Statistics
import Resilience.Cache.Store
import Resilience.Cancellation
import Resilience.Document.Basic
import Resilience.Document.Fault
import Resilience.Document.Lexeme
import Resilience.Document.Printer
import Resilience.Document.Quantity
import Resilience.Document.Reader
import Resilience.Document.Record
import Resilience.Document.Text
import Resilience.Failure.Chain
import Resilience.Failure.Described
import Resilience.Failure.Interruption
import Resilience.Failure.Io
import Resilience.Failure.Transient
import Resilience.Number.Dyadic
import Resilience.Number.Float
import Resilience.Number.Numeral
import Resilience.Number.Seconds
import Resilience.Number.Shortest
import Resilience.Number.Word
import Resilience.Rate.Bucket
import Resilience.Rate.Config
import Resilience.Rate.Error
import Resilience.Rate.Execute
import Resilience.Rate.Limiter
import Resilience.Retry.Backoff
import Resilience.Retry.Config
import Resilience.Retry.Error
import Resilience.Retry.Execute
import Resilience.Service.Body
import Resilience.Service.Error
import Resilience.Service.Lookup
import Resilience.Service.Respond
import Resilience.Service.Response
import Resilience.Service.Route
import Resilience.Settings.Basic
import Resilience.Settings.Variables
import Resilience.Telemetry.Event
import Resilience.Telemetry.Signal
import Resilience.Text.Alphanumeric
import Resilience.Text.Blank
import Resilience.Text.Hidden
import Resilience.Text.Quoted
import Resilience.Text.Ranges
import Resilience.Text.Words
import Resilience.Time
import Resilience.World
import Resilience.Proofs.Cache.Ranking
import Resilience.Proofs.Cache.Usage
import Resilience.Proofs.Cache.Coherence
import Resilience.Proofs.Activity.Alone
import Resilience.Proofs.Failure.Wrapping
import Resilience.Proofs.Retry.Schedule
import Resilience.Proofs.Rate.Admission
import Resilience.Proofs.Rate.Accrual
import Resilience.Proofs.Rate.Comparison
import Resilience.Proofs.Rate.Exactness
import Resilience.Proofs.Rate.Clients
import Resilience.Proofs.Rate.Tokens
import Resilience.Proofs.Cache.Presence
import Resilience.Proofs.Cache.Eviction
import Resilience.Proofs.Cache.Recency
import Resilience.Proofs.Cache.Ledger
import Resilience.Proofs.Cache.Likeness
import Resilience.Proofs.Cache.Sweeping
import Resilience.Proofs.Cache.Purging
import Resilience.Proofs.Cache.Life
import Resilience.Proofs.Cache.Survival
import Resilience.Proofs.Cache.Staleness
import Resilience.Proofs.Cache.Capacity
import Resilience.Proofs.Activity.Undertaking
import Resilience.Proofs.Cache.Computing
import Resilience.Proofs.Retry.Standing
import Resilience.Proofs.Retry.Law
import Resilience.Proofs.Retry.Interruption
import Resilience.Proofs.Rate.Waiting
import Resilience.Proofs.Retry.Counters
import Resilience.Proofs.Retry.Deadline
import Resilience.Proofs.Cancellation.Orderly
import Resilience.Proofs.Service.Looking
import Resilience.Proofs.Service.Stages
import Resilience.Proofs.Service.Meaning
import Resilience.Proofs.Service.Traffic
import Resilience.Proofs.Service.Provenance
import Resilience.Proofs.Settings.Validity
import Resilience.Proofs.Number.Digits
import Resilience.Proofs.Document.Lexing
import Resilience.Proofs.Document.Rereading
import Resilience.Proofs.Document.Records
import Resilience.Proofs.Settings.Facets
import Resilience.Proofs.Settings.Members
import Resilience.Proofs.Settings.RoundTrip
import Resilience.Proofs.Settings.Sources
import Resilience.Proofs.Service.Budget
import Resilience.Proofs.Telemetry.Nesting
import Resilience.Proofs.Activity.Reports
import Resilience.Proofs.Service.Spans
import Resilience.Proofs.Cancellation.Sleeping
import Resilience.Proofs.Cancellation.Ancestry
import Resilience.Proofs.Cache.Closing
import Resilience.Proofs.Text.Words
import Resilience.Proofs.Failure.Messages
import Resilience.Proofs.Failure.Exhaustion
import Resilience.Proofs.Retry.Reports
import Resilience.Proofs.Retry.Growth
import Resilience.Proofs.Service.Keys
import Resilience.Proofs.Document.Grammar
import Resilience.Proofs.Document.Arrangement
import Resilience.Proofs.Document.Reshaping
import Resilience.Proofs.Settings.Shape
