import Turnstile.Cleanup
import Turnstile.Digest.Sha256
import Turnstile.Fault
import Turnstile.Guard.Call
import Turnstile.Guard.Refusal
import Turnstile.Health
import Turnstile.Http.ContentType
import Turnstile.Http.Endpoint
import Turnstile.Http.ErrorBody
import Turnstile.Http.Operation
import Turnstile.Http.Response
import Turnstile.Http.Service
import Turnstile.Json.Basic
import Turnstile.Json.Decode
import Turnstile.Json.Numeral
import Turnstile.Json.Printer
import Turnstile.Json.Written
import Turnstile.Key.Canonical
import Turnstile.Key.Extractor
import Turnstile.Key.Headers
import Turnstile.Number.Decimal
import Turnstile.Number.Decimal.Reading
import Turnstile.Number.Double
import Turnstile.Number.Extended
import Turnstile.Number.Rounding
import Turnstile.Number.Shortest
import Turnstile.Outcome
import Turnstile.Policy
import Turnstile.Proofs.Guard.Account
import Turnstile.Proofs.Guard.Acts
import Turnstile.Proofs.Guard.Admission
import Turnstile.Proofs.Guard.Balance
import Turnstile.Proofs.Guard.Concourse
import Turnstile.Proofs.Guard.Conformance
import Turnstile.Proofs.Guard.Course
import Turnstile.Proofs.Guard.Crowd
import Turnstile.Proofs.Guard.Exclusive
import Turnstile.Proofs.Guard.Exposition
import Turnstile.Proofs.Guard.Finalization
import Turnstile.Proofs.Guard.Isolation
import Turnstile.Proofs.Guard.Ledger
import Turnstile.Proofs.Guard.Masking
import Turnstile.Proofs.Guard.Opening
import Turnstile.Proofs.Guard.Replay
import Turnstile.Proofs.Http.Order
import Turnstile.Proofs.Http.Voucher
import Turnstile.Proofs.Json.Accepted
import Turnstile.Proofs.Json.Depth
import Turnstile.Proofs.Json.Double
import Turnstile.Proofs.Json.Fields
import Turnstile.Proofs.Json.Grammar
import Turnstile.Proofs.Json.Lexeme
import Turnstile.Proofs.Json.Members
import Turnstile.Proofs.Json.Numeral
import Turnstile.Proofs.Json.RoundTrip
import Turnstile.Proofs.Json.Scalar
import Turnstile.Proofs.Key.Canonical
import Turnstile.Proofs.Key.Composite
import Turnstile.Proofs.Key.Extraction
import Turnstile.Proofs.Memory.Completion
import Turnstile.Proofs.Memory.Fencing
import Turnstile.Proofs.Memory.Purge
import Turnstile.Proofs.Memory.Sight
import Turnstile.Proofs.Memory.Upkeep
import Turnstile.Proofs.Number.Decimal
import Turnstile.Proofs.Number.Order
import Turnstile.Proofs.Number.Reading
import Turnstile.Proofs.Record.Deadline
import Turnstile.Proofs.Record.Format
import Turnstile.Proofs.Record.Owner
import Turnstile.Proofs.Record.RoundTrip
import Turnstile.Proofs.Record.Wire
import Turnstile.Proofs.Remote.Equivalence
import Turnstile.Proofs.Remote.Mirror
import Turnstile.Proofs.Remote.Serving
import Turnstile.Proofs.Remote.Settled
import Turnstile.Proofs.Remote.Torn
import Turnstile.Proofs.Remote.Upkeep
import Turnstile.Proofs.Shop.Receipt
import Turnstile.Proofs.Shop.Total
import Turnstile.Proofs.Store.Journal
import Turnstile.Proofs.Store.Kept
import Turnstile.Proofs.Store.Keyspace
import Turnstile.Proofs.Store.Provenance
import Turnstile.Proofs.Store.Remains
import Turnstile.Proofs.Store.Renaming
import Turnstile.Proofs.Store.Settled
import Turnstile.Proofs.Store.Sight
import Turnstile.Proofs.Store.Standing
import Turnstile.Proofs.Store.Tenure
import Turnstile.Proofs.Store.View
import Turnstile.Proofs.Telemetry.Exposed
import Turnstile.Proofs.Text.Joined
import Turnstile.Proofs.Text.Masking
import Turnstile.Proofs.Text.Numeral
import Turnstile.Proofs.Text.Signs
import Turnstile.Proofs.Time.Calendar
import Turnstile.Proofs.Time.Deadline
import Turnstile.Proofs.Time.Order
import Turnstile.Proofs.Time.Stamp
import Turnstile.Proofs.Time.Whole
import Turnstile.Record
import Turnstile.Record.Wire
import Turnstile.Rehearsal.Planned
import Turnstile.Rehearsal.Scene
import Turnstile.Rehearsal.Session
import Turnstile.Rehearsal.Traffic
import Turnstile.Schema
import Turnstile.Settings.Basic
import Turnstile.Settings.Files
import Turnstile.Settings.Ini
import Turnstile.Settings.Json5
import Turnstile.Settings.Layers
import Turnstile.Settings.Path
import Turnstile.Settings.Ron
import Turnstile.Settings.Toml
import Turnstile.Settings.Toml.Scalar
import Turnstile.Settings.Toml.Tree
import Turnstile.Settings.Toml.Word
import Turnstile.Settings.Value
import Turnstile.Settings.Yaml
import Turnstile.Settings.Yaml.Block
import Turnstile.Settings.Yaml.Cursor
import Turnstile.Settings.Yaml.Flow
import Turnstile.Settings.Yaml.Node
import Turnstile.Shop.Order
import Turnstile.Shop.Payment
import Turnstile.Shop.Policies
import Turnstile.Shop.Subscription
import Turnstile.Shop.Violation
import Turnstile.Shop.Voucher
import Turnstile.Store.Basic
import Turnstile.Store.Keyspace
import Turnstile.Store.Memory
import Turnstile.Store.Remote
import Turnstile.Store.Reply
import Turnstile.Table
import Turnstile.Telemetry.Counters
import Turnstile.Telemetry.Directive
import Turnstile.Telemetry.Effect
import Turnstile.Telemetry.Event
import Turnstile.Telemetry.Filter
import Turnstile.Telemetry.Measure
import Turnstile.Telemetry.Pattern
import Turnstile.Text.Blank
import Turnstile.Text.Hex
import Turnstile.Text.Letter
import Turnstile.Text.Lower
import Turnstile.Text.Mask
import Turnstile.Text.Numeral
import Turnstile.Text.Percent
import Turnstile.Text.PointSet
import Turnstile.Text.Printable
import Turnstile.Text.Quoted
import Turnstile.Text.Reader
import Turnstile.Text.Split
import Turnstile.Time.Calendar
import Turnstile.Time.Instant
import Turnstile.Time.Span
import Turnstile.Time.Stamp
import Turnstile.Token
