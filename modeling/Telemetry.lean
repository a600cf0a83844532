import Telemetry.Application.Basic
import Telemetry.Application.Exporter
import Telemetry.Application.Publishing
import Telemetry.Application.World
import Telemetry.Config.Setting
import Telemetry.Decimal.Binary
import Telemetry.Decimal.Notation
import Telemetry.Decimal.Shortest
import Telemetry.Error
import Telemetry.Identity.Id
import Telemetry.Identity.Kind
import Telemetry.Identity.Tags
import Telemetry.Json.Text
import Telemetry.Meter.Counter
import Telemetry.Meter.Histogram
import Telemetry.Meter.Instrument
import Telemetry.Meter.LongTasks
import Telemetry.Meter.Measurement
import Telemetry.Meter.Reading
import Telemetry.Meter.Recording
import Telemetry.Meter.Request
import Telemetry.Meter.Snapshot
import Telemetry.Meter.Summary
import Telemetry.Meter.Timer
import Telemetry.Meter.Watched
import Telemetry.Naming.Cache
import Telemetry.Naming.Convention
import Telemetry.Naming.Shelf
import Telemetry.NewRelic.Backend
import Telemetry.NewRelic.Config
import Telemetry.NewRelic.Event
import Telemetry.NewRelic.Naming
import Telemetry.Plain.Backend
import Telemetry.Publish.Backend
import Telemetry.Publish.Batch
import Telemetry.Publish.Lifecycle
import Telemetry.Publish.Log
import Telemetry.Publish.Payload
import Telemetry.Publish.Publisher
import Telemetry.Publish.Schedule
import Telemetry.Publish.StepConfig
import Telemetry.Registry.Basic
import Telemetry.Registry.Filter
import Telemetry.Registry.Search
import Telemetry.Statsd.Backend
import Telemetry.Statsd.Config
import Telemetry.Statsd.Flavor
import Telemetry.Statsd.Line
import Telemetry.Statsd.Packing
import Telemetry.Text.Alphabetic
import Telemetry.Text.Blank
import Telemetry.Text.Hidden
import Telemetry.Text.Outline
import Telemetry.Text.Pieces
import Telemetry.Text.Quoted
import Telemetry.Text.Ranges
import Telemetry.Text.Uppercase
import Telemetry.TextMap
import Telemetry.Time.Clock
import Telemetry.Time.Span
import Telemetry.Time.SpanText
import Telemetry.Time.Unit
import Telemetry.Proofs.Statsd.Packing
import Telemetry.Proofs.Publish.Sweep
import Telemetry.Proofs.Registry.Run
import Telemetry.Proofs.Registry.Soundness
import Telemetry.Proofs.Publish.Accounting
import Telemetry.Proofs.Meter.Tally
import Telemetry.Proofs.Registry.Chronicle
import Telemetry.Proofs.Registry.Course
import Telemetry.Proofs.Registry.Cap
import Telemetry.Proofs.Naming.Cache
import Telemetry.Proofs.Naming.Shelf
import Telemetry.Proofs.Publish.Calls
import Telemetry.Proofs.Publish.Transparency
import Telemetry.Proofs.Decimal.Written
import Telemetry.Proofs.Statsd.Parts
import Telemetry.Proofs.Statsd.Separators
import Telemetry.Proofs.Statsd.Datadog
import Telemetry.Proofs.Statsd.Escapes
import Telemetry.Proofs.Time.SpanText
import Telemetry.Proofs.Config.RoundTrip
import Telemetry.Proofs.Publish.Isolation
import Telemetry.Proofs.Publish.Lifecycle
import Telemetry.Proofs.NewRelic.Requests
import Telemetry.Proofs.Publish.Outcomes
import Telemetry.Proofs.Publish.Founders
import Telemetry.Proofs.Publish.Loop
import Telemetry.Proofs.Publish.Closing
import Telemetry.Proofs.Publish.Relabel
import Telemetry.Proofs.Application.Deeds
import Telemetry.Proofs.Application.Relabel
import Telemetry.Proofs.NewRelic.Secrecy
import Telemetry.Proofs.Registry.Idle
import Telemetry.Proofs.Application.Idle
import Telemetry.Proofs.Registry.Frame
import Telemetry.Proofs.TextMap
import Telemetry.Proofs.Registry.Mapping
import Telemetry.Proofs.Registry.Removal
import Telemetry.Proofs.Statsd.Measurements
import Telemetry.Proofs.Decimal.Order
import Telemetry.Proofs.Meter.Histogram
import Telemetry.Proofs.Meter.Watched
import Telemetry.Proofs.NewRelic.Events
import Telemetry.Proofs.Decimal.Arithmetic
import Telemetry.Proofs.Meter.Summary
import Telemetry.Proofs.Meter.Shown
import Telemetry.Proofs.Time.Nanoseconds
import Telemetry.Proofs.Meter.Timer
import Telemetry.Proofs.Meter.LongTasks
import Telemetry.Proofs.Text.Bytes
import Telemetry.Proofs.Identity.Tags
import Telemetry.Proofs.Time.Forward
import Telemetry.Proofs.Statsd.Names
import Telemetry.Proofs.Publish.Alignment
import Telemetry.Proofs.Application.Calm
import Telemetry.Proofs.Application.Steps
import Telemetry.Proofs.Naming.Segments
