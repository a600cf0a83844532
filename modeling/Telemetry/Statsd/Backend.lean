import Telemetry.Naming.Shelf
import Telemetry.Publish.Publisher
import Telemetry.Statsd.Config
import Telemetry.Statsd.Line
import Telemetry.Statsd.Packing

/-!
# The StatsD backend

Meters as StatsD lines. What was added up since the last publish is sent as a counter, which the
server adds up further; everything else is sent as a gauge. A meter that has one value only needs no
statistic tag.

## Main definitions

* `statistics`: what is written for each form of meter.
* `writeMeter`: the lines of a meter.
* `backend`, `publisher?`: the StatsD backend of a configuration, and a publisher for it.
-/

namespace Telemetry.Statsd

/-- The type of the lines of a statistic: a counter for what adds up, else a gauge. -/
def typeOf : Statistic → Char
  | .count | .total | .totalTime => 'c'
  | _ => 'g'

/-- The statistics that are written for a form of meter, and whether as tags. A meter of no
particular kind has no fixed ones. -/
def statistics : Kind → Option (List Statistic × Bool)
  | .counter | .functionCounter => some ([.count], false)
  | .gauge => some ([.value], false)
  | .timer => some ([.count, .totalTime, .max], true)
  | .distributionSummary => some ([.count, .total, .max], true)
  | .longTaskTimer => some ([.activeTasks, .duration], true)
  | .functionTimer => some ([.count, .totalTime], true)
  | .other => none

/-- The finite measurements that are written for a form of meter, each with its tag if it has
one. -/
def samples (form : Kind) (snapshot : Snapshot) : List (Measurement × Option Statistic) :=
  match statistics form with
  | none =>
    (snapshot.measurements.filter (·.value.isFinite)).map fun m => (m, some m.statistic)
  | some (wanted, tagged) =>
    wanted.filterMap fun statistic =>
      ((snapshot.value? statistic).filter (·.isFinite)).map fun value =>
        (⟨statistic, value⟩, if tagged then some statistic else none)

/-- Lines written one after another, each with the cache that the one before it left. -/
def writeAll {α : Type} (write : NamingCache Fragments → α → String × NamingCache Fragments)
    (cache : NamingCache Fragments) : List α → List String × NamingCache Fragments
  | [] => ([], cache)
  | item :: rest =>
    let (line, cache) := write cache item
    let (lines, cache) := writeAll write cache rest
    (line :: lines, cache)

/-- The lines of a meter: one for each sample, then one for each bucket. -/
def writeMeter (flavor : Flavor) (shelf : Shelf Fragments) (id : Id) (form : Kind)
    (snapshot : Snapshot) (installed : Installed) : List String × Shelf Fragments :=
  let (lines, cache) := writeAll
    (fun cache (s : Measurement × Option Statistic) =>
      line flavor.rules cache installed s.1.value s.2 (typeOf s.1.statistic))
    (shelf.cacheFor id) (samples form snapshot)
  let (bucketLines, cache) := writeAll
    (fun cache (b : Bucket) =>
      bucketLine flavor.rules cache installed b.count.toFloat b.upperBound 'g')
    cache (cumulative (snapshot.histogram.getD []))
  (lines ++ bucketLines, shelf.store cache)

/-- The payload of a packet. -/
def payload (config : Config) (packet : List String) : Payload :=
  ((Payload.new (packetBody packet) packet.length).withUri config.address).withContentType
    "text/plain"

/-- The lines that do not fit a packet. -/
def longLines (config : Config) (lines : List String) : List LogEvent :=
  (lines.filter fun l => l.utf8ByteSize > config.maxPacketLength).map fun l =>
    .longLine l.utf8ByteSize config.maxPacketLength

/-- The StatsD backend of a configuration. -/
def backend (config : Config) : Backend String (Shelf Fragments) where
  name := "statsd"
  unit := .milliseconds
  preferred := some config.flavor.convention
  fresh := []
  write shelf id form snapshot installed :=
    let (lines, shelf) := writeMeter config.flavor shelf id form snapshot installed
    ⟨lines, shelf, []⟩
  encode lines :=
    ⟨.ok ((pack config.maxPacketLength lines).map (payload config)), longLines config lines⟩
  retain := Shelf.retain

/-- The StatsD backend of a configuration that can be used. -/
def backend? (config : Config) : Except Error (Backend String (Shelf Fragments)) := do
  config.validate
  pure (backend config)

/-- A publisher to StatsD, if the configuration can be used. -/
def publisher? (config : Config) (serial : Nat) :
    Except Error (Publisher String (Shelf Fragments)) := do
  let backend ← backend? config
  Publisher.new backend config.step serial

end Telemetry.Statsd
