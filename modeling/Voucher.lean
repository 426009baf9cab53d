import Voucher.Cache.Glob
import Voucher.Cache.Key
import Voucher.Cache.Memory
import Voucher.Cache.Rules
import Voucher.Calendar
import Voucher.Charset
import Voucher.CheckDigit.Algorithm
import Voucher.CheckDigit.Builtin
import Voucher.CheckDigit.Custom
import Voucher.CheckDigit.Formula.Basic
import Voucher.CheckDigit.Formula.Eval
import Voucher.CheckDigit.Formula.Wire
import Voucher.Database.Query
import Voucher.Database.Repository
import Voucher.Database.Row
import Voucher.Decimal.Read
import Voucher.Decimal.Shortest
import Voucher.Digest.Sha256
import Voucher.Http.Address
import Voucher.Http.Body
import Voucher.Http.Handle
import Voucher.Http.MediaType
import Voucher.Http.Message
import Voucher.Http.Route
import Voucher.Http.Target
import Voucher.Instant
import Voucher.Json.Basic
import Voucher.Json.Document
import Voucher.Json.Number
import Voucher.Json.Parser
import Voucher.Json.Printer
import Voucher.Json.Record
import Voucher.Json.Skip
import Voucher.KeyValue.Server
import Voucher.Layout.Basic
import Voucher.Layout.Fault
import Voucher.Layout.Wire
import Voucher.Ledger.Entry
import Voucher.Ledger.Redeem
import Voucher.Ledger.Store
import Voucher.Lock.Basic
import Voucher.Lock.Distributed
import Voucher.Lock.Rows
import Voucher.Lock.Table
import Voucher.Match.Fields
import Voucher.Match.Payload
import Voucher.Match.Verdict
import Voucher.Query.Page
import Voucher.Query.Run
import Voucher.Rule.Basic
import Voucher.Rule.Sample
import Voucher.Rule.Wire
import Voucher.Service.Call
import Voucher.Service.Deployment
import Voucher.Service.Error
import Voucher.Service.Outage
import Voucher.Service.Script
import Voucher.Settings.Basic
import Voucher.Settings.DotEnv
import Voucher.Settings.Load
import Voucher.Settings.Read
import Voucher.Settings.Value
import Voucher.Settings.Wire
import Voucher.Telemetry.Metrics
import Voucher.Telemetry.TraceContext
import Voucher.Text.Blank
import Voucher.Text.Digit
import Voucher.Text.Invisible
import Voucher.Text.Quoted
import Voucher.Text.Search
import Voucher.Text.Upper
import Voucher.Text.UpperTable
import Voucher.Text.Utf8
import Voucher.Toml.Document
import Voucher.Toml.Scalar
import Voucher.Toml.Text
import Voucher.Uuid
import Voucher.Validation.Admission
import Voucher.Validation.Outcome
import Voucher.Validation.Rejection
import Voucher.Validation.Request
import Voucher.Validation.Run
import Voucher.Word
import Voucher.Proofs.Keyed
import Voucher.Proofs.Text.Digit
import Voucher.Proofs.Calendar
import Voucher.Proofs.Uuid
import Voucher.Proofs.Instant.Text
import Voucher.Proofs.Json.Record
import Voucher.Proofs.Rule.Wire
import Voucher.Proofs.Cache.Entry
import Voucher.Proofs.Cache.Memory
import Voucher.Proofs.Cache.Getter
import Voucher.Proofs.Cache.Staleness
import Voucher.Proofs.Ledger.Store
import Voucher.Proofs.Cache.Rules
import Voucher.Proofs.Http.Effect
import Voucher.Proofs.Http.Reachable
import Voucher.Proofs.Ledger.Interleaving
import Voucher.Proofs.Ledger.Sequence
import Voucher.Proofs.Lock.Exclusion
import Voucher.Proofs.Match.CheckDigit
import Voucher.Proofs.Validation.CheckDigit
import Voucher.Proofs.Validation.FirstMatch
import Voucher.Proofs.KeyValue.Server
import Voucher.Proofs.Lock.Rows
import Voucher.Proofs.Lock.Failover
import Voucher.Proofs.Service.Lock
import Voucher.Proofs.Validation.Modes
import Voucher.Proofs.Cache.Invalidation
import Voucher.Proofs.Cache.Unreliable
import Voucher.Proofs.Validation.ReadBack
import Voucher.Proofs.Validation.Questions
import Voucher.Proofs.Validation.Uncached
import Voucher.Proofs.CheckDigit.Misprint
import Voucher.Proofs.CheckDigit.Digits
import Voucher.Proofs.CheckDigit.Verhoeff
import Voucher.Proofs.CheckDigit.Damm
import Voucher.Proofs.CheckDigit.Sum
import Voucher.Proofs.CheckDigit.Luhn
import Voucher.Proofs.CheckDigit.Mod11
import Voucher.Proofs.CheckDigit.Formula.Budget
import Voucher.Proofs.CheckDigit.Formula.Exact
import Voucher.Proofs.CheckDigit.Formula.Refinement
import Voucher.Proofs.CheckDigit.Formula.Cost
import Voucher.Proofs.CheckDigit.Mod97
import Voucher.Proofs.CheckDigit.Formula.Restated
import Voucher.Proofs.Text.Ascii
import Voucher.Proofs.Text.Search
import Voucher.Proofs.Text.Upper
import Voucher.Proofs.Match.Normalize
import Voucher.Proofs.Match.Issued
import Voucher.Proofs.Validation.LetterCase
import Voucher.Proofs.Match.Values
import Voucher.Proofs.Match.Split
import Voucher.Proofs.Layout.Fault
import Voucher.Proofs.Lock.Retry
import Voucher.Proofs.Lock.Contest
import Voucher.Proofs.Ledger.Exits
import Voucher.Proofs.Ledger.History
import Voucher.Proofs.Telemetry.Told
import Voucher.Proofs.Validation.Account
import Voucher.Proofs.Validation.Conservation
import Voucher.Proofs.Ledger.Listing
import Voucher.Proofs.Query.Pages
import Voucher.Proofs.Ledger.Tally
import Voucher.Proofs.Ledger.Catalog
import Voucher.Proofs.Ledger.Statistics
import Voucher.Proofs.Json.Order
import Voucher.Proofs.CheckDigit.Formula.Wire
import Voucher.Proofs.CheckDigit.Formula.Depth
import Voucher.Proofs.Cache.Glob
import Voucher.Proofs.Validation.Catalog
import Voucher.Proofs.Cache.Key
