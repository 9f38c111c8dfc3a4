import ChatGateway.Binary.Basic
import ChatGateway.Binary.Shortest
import ChatGateway.Chat.Basic
import ChatGateway.Chat.Wire
import ChatGateway.Client.Argument
import ChatGateway.Client.Host
import ChatGateway.Client.Setting
import ChatGateway.Client.Value
import ChatGateway.Config.Basic
import ChatGateway.Config.Description
import ChatGateway.Config.Fault
import ChatGateway.Config.File
import ChatGateway.Config.Setting
import ChatGateway.Config.Wire
import ChatGateway.Dict
import ChatGateway.Environment
import ChatGateway.Environment.File
import ChatGateway.Error
import ChatGateway.Http.Address
import ChatGateway.Http.Address.Authority
import ChatGateway.Http.Address.Path
import ChatGateway.Http.Cooldown
import ChatGateway.Http.Dialect
import ChatGateway.Http.DomainName
import ChatGateway.Http.Exchange
import ChatGateway.Http.HostName
import ChatGateway.Http.Line
import ChatGateway.Http.Percent
import ChatGateway.Http.Providers
import ChatGateway.Http.Punycode
import ChatGateway.Http.RetryAfter
import ChatGateway.Json.Canonical
import ChatGateway.Json.Decode
import ChatGateway.Json.Draft
import ChatGateway.Json.Number
import ChatGateway.Json.ReadError
import ChatGateway.Json.Record
import ChatGateway.Json.Token
import ChatGateway.Json.Value
import ChatGateway.Numeral
import ChatGateway.Proofs.Binary.Precision
import ChatGateway.Proofs.Binary.Rounding
import ChatGateway.Proofs.Binary.Shortest
import ChatGateway.Proofs.Chat.RoundTrip
import ChatGateway.Proofs.Config.Edits
import ChatGateway.Proofs.Config.Layers
import ChatGateway.Proofs.Config.RoundTrip
import ChatGateway.Proofs.Http.Bodies
import ChatGateway.Proofs.Http.Compounds
import ChatGateway.Proofs.Http.Cooldown
import ChatGateway.Proofs.Http.Outcomes
import ChatGateway.Proofs.Http.RetryAfter
import ChatGateway.Proofs.Http.Scan
import ChatGateway.Proofs.Json.Canonical
import ChatGateway.Proofs.Json.Decoding
import ChatGateway.Proofs.Json.Drafts
import ChatGateway.Proofs.Json.Grammar
import ChatGateway.Proofs.Json.Members
import ChatGateway.Proofs.Json.Numerals
import ChatGateway.Proofs.Json.Readings
import ChatGateway.Proofs.Json.Reals
import ChatGateway.Proofs.Json.Spelling
import ChatGateway.Proofs.Json.Tokens
import ChatGateway.Proofs.Quota.Accounting
import ChatGateway.Proofs.Quota.Answers
import ChatGateway.Proofs.Quota.Ceilings
import ChatGateway.Proofs.Quota.Denials
import ChatGateway.Proofs.Quota.History
import ChatGateway.Proofs.Quota.Prices
import ChatGateway.Proofs.Quota.Readings
import ChatGateway.Proofs.Quota.Refunds
import ChatGateway.Proofs.Quota.Requests
import ChatGateway.Proofs.Quota.Separation
import ChatGateway.Proofs.Quota.Windows
import ChatGateway.Proofs.Routing.Candidates
import ChatGateway.Proofs.Routing.Registries
import ChatGateway.Proofs.Routing.Routes
import ChatGateway.Proofs.Routing.Selection
import ChatGateway.Proofs.Session.Billing
import ChatGateway.Proofs.Session.CompletionCaps
import ChatGateway.Proofs.Session.Fallback
import ChatGateway.Proofs.Session.Lifecycle
import ChatGateway.Proofs.Session.Lives
import ChatGateway.Proofs.Session.Operations
import ChatGateway.Proofs.Session.Performance
import ChatGateway.Proofs.Session.RateDenials
import ChatGateway.Proofs.Session.Reloading
import ChatGateway.Proofs.Session.Revocation
import ChatGateway.Proofs.Session.Secrets
import ChatGateway.Proofs.Session.Snapshot
import ChatGateway.Proofs.Session.StoreFailures
import ChatGateway.Proofs.Session.Traffic
import ChatGateway.Proofs.Session.Walk
import ChatGateway.Quota.Admission
import ChatGateway.Quota.Ledger
import ChatGateway.Quota.Pricing
import ChatGateway.Quota.Store
import ChatGateway.Quota.Window
import ChatGateway.Routing.Registry
import ChatGateway.Routing.Route
import ChatGateway.Routing.Selection
import ChatGateway.Session.Call
import ChatGateway.Session.Gateway
import ChatGateway.Session.Policy
import ChatGateway.Session.Rehearsal
import ChatGateway.Session.Service
import ChatGateway.Telemetry
import ChatGateway.Text.Classes
import ChatGateway.Text.Composition
import ChatGateway.Text.Direction
import ChatGateway.Text.Folding
import ChatGateway.Text.Folding.Forms
import ChatGateway.Text.Folding.Ideographs
import ChatGateway.Text.Folding.Letters
import ChatGateway.Text.Joining
import ChatGateway.Text.Mark
import ChatGateway.Text.Quoted
import ChatGateway.Text.Unprintable
import ChatGateway.Text.Upper
import ChatGateway.Text.Utf8
import ChatGateway.Time.Calendar
import ChatGateway.Time.Instant
import ChatGateway.Word
