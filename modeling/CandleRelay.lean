import CandleRelay.Text.Canonical
import CandleRelay.Text.Utf8
import CandleRelay.Symbol
import CandleRelay.Interval
import CandleRelay.Span
import CandleRelay.Universe
import CandleRelay.Json.Doc
import CandleRelay.Json.Reader
import CandleRelay.Json.Grammar
import CandleRelay.Json.Value
import CandleRelay.Json.Record
import CandleRelay.Json.Quoted
import CandleRelay.Metrics
import CandleRelay.Shutdown
import CandleRelay.Bus.Message
import CandleRelay.Bus.Glob
import CandleRelay.Bus.Memory
import CandleRelay.Bus.Outbox
import CandleRelay.Bus.Usage
import CandleRelay.Feed.Frame
import CandleRelay.Feed.Batch
import CandleRelay.Feed.Ledger
import CandleRelay.Feed.Line
import CandleRelay.Feed.Client
import CandleRelay.Gateway.Control
import CandleRelay.Gateway.Registry
import CandleRelay.Gateway.Sink
import CandleRelay.Gateway.Session
import CandleRelay.Gateway.Dispatch
import CandleRelay.Gateway.Listener
import CandleRelay.Gateway.Traffic
import CandleRelay.Gateway.Tasks
import CandleRelay.Gateway.Service
import CandleRelay.Gateway.Clock
import CandleRelay.Discovery.Catalog
import CandleRelay.Discovery.Search
import CandleRelay.RelayError
import CandleRelay.Feed.Connection
import CandleRelay.Worker
import CandleRelay.Gateway.Server
import CandleRelay.Toml.Value
import CandleRelay.Toml.Quoted
import CandleRelay.Toml.Scalar
import CandleRelay.Toml.Syntax
import CandleRelay.Toml.Document
import CandleRelay.Text.Cut
import CandleRelay.Text.Table
import CandleRelay.Text.Mark
import CandleRelay.Text.Composite
import CandleRelay.Text.Composition
import CandleRelay.Text.Direction
import CandleRelay.Text.Joining
import CandleRelay.Net.Address
import CandleRelay.Net.LooseIpv4
import CandleRelay.Net.Punycode
import CandleRelay.Net.Domain.Barred
import CandleRelay.Net.Domain.Folding.Letters
import CandleRelay.Net.Domain.Folding.Symbols
import CandleRelay.Net.Domain.Folding.Ideographs
import CandleRelay.Net.Domain.Folding.Forms
import CandleRelay.Net.Domain.Folding
import CandleRelay.Net.Domain.Label
import CandleRelay.Net.Domain.Order
import CandleRelay.Net.Domain
import CandleRelay.Net.Url
import CandleRelay.Config.Settings
import CandleRelay.Json.Names
import CandleRelay.Config.Extract
import CandleRelay.Config.Load
import CandleRelay.CommandLine
import CandleRelay.Wiring
import CandleRelay.Main
import CandleRelay.Proofs.Registry.Soundness
import CandleRelay.Proofs.Registry.History
import CandleRelay.Proofs.Traffic.Effects
import CandleRelay.Proofs.Traffic.Delivery
import CandleRelay.Proofs.Traffic.Lifecycle
import CandleRelay.Pipeline
import CandleRelay.Proofs.Traffic.Serving
import CandleRelay.Proofs.Traffic.Answers
import CandleRelay.Proofs.Bus
import CandleRelay.Proofs.Bus.Following
import CandleRelay.Proofs.Bus.Readers
import CandleRelay.Proofs.Feed.Reading
import CandleRelay.Proofs.Feed.Requests
import CandleRelay.Proofs.Pipeline
import CandleRelay.Proofs.Traffic.Listening
import CandleRelay.Proofs.Bus.Wildcard
import CandleRelay.Proofs.Feed.Intervals
import CandleRelay.Proofs.Worker
import CandleRelay.Proofs.Traffic.Confluence
import CandleRelay.Proofs.Traffic.Standing
import CandleRelay.Proofs.Traffic.Isolation
import CandleRelay.Proofs.Traffic.Accounting
import CandleRelay.Proofs.Traffic.Threshold
import CandleRelay.Proofs.Json.Quoting
import CandleRelay.Proofs.Json.Tokens
import CandleRelay.Proofs.Json.Acceptance
import CandleRelay.Proofs.Feed.Streams
import CandleRelay.Proofs.Feed.Pacing
import CandleRelay.Proofs.Feed.Routing
import CandleRelay.Json.Meaning
import CandleRelay.Proofs.Control
import CandleRelay.Proofs.Feed.Acknowledgement
import CandleRelay.Proofs.Truncation
import CandleRelay.Proofs.Bus.Patterns
import CandleRelay.Proofs.Feed.RoundTrip
import CandleRelay.Proofs.Feed.Replies
import CandleRelay.Proofs.Traffic.Frames
import CandleRelay.Proofs.Traffic.Reports
import CandleRelay.Proofs.Traffic.Service
import CandleRelay.Proofs.Traffic.Pace
import CandleRelay.Proofs.Traffic.Undisturbed
import CandleRelay.Proofs.Traffic.Clock
import CandleRelay.Proofs.Discovery
import CandleRelay.Proofs.Universe
import CandleRelay.Proofs.Feed.Partition
import CandleRelay.Proofs.Feed.Ledger
import CandleRelay.Proofs.Names
import CandleRelay.Proofs.Traffic.Closing
import CandleRelay.Proofs.Discovery.Waits
import CandleRelay.Proofs.Bus.Bounds
