import Telemetry.Publish.Backend
import Telemetry.Publish.Batch
import Telemetry.Publish.StepConfig
import Telemetry.Registry.Basic

/-!
# Publishers

A publisher takes a snapshot of every registered meter, lets its backend write them batch by batch,
and hands the payloads to a sender. It does not wait for the sends: each is in flight until its
answer arrives, and is then counted as sent or as failed. Without anything to run a send on, a
payload is counted as failed at once. What a publish took of the meters and what it had encoded is
kept with its result.

## Main definitions

* `Publisher`: settings, cache, sends in flight, and how many were sent or failed.
* `collect`, `publishBatch`: one meter, and one batch.
* `Publisher.iterate`: one publish.
* `Publisher.answered`: the end of one send.
-/

namespace Telemetry

/-- How many payloads were accepted, and how many were not. -/
structure Stats where
  sent : UInt64
  failed : UInt64
deriving DecidableEq

namespace Stats

/-- Nothing has been sent. -/
def start : Stats := ⟨0, 0⟩

/-- One more payload was accepted. -/
def countSent (s : Stats) : Stats := { s with sent := s.sent + 1 }

/-- One more payload failed. -/
def countFailed (s : Stats) : Stats := { s with failed := s.failed + 1 }

/-- The outline of the numbers. -/
def outline (s : Stats) : String :=
  Outline.record "PublisherStats"
    [("sent", toString s.sent.toNat), ("failed", toString s.failed.toNat)]

end Stats

/-- What one publish did. -/
structure PublishSummary where
  batches : Nat
  records : Nat
  payloads : Nat
  skipped : Nat
deriving DecidableEq, Repr

/-- A publisher: how it serves its backend, what it keeps, and what became of its payloads. -/
structure Publisher (Record Cache : Type) where
  backend : Backend Record Cache
  config : StepConfig
  preferred : Option Installed
  cache : Cache
  stats : Stats
  inFlight : List Payload

/-- What meters are read with during one publish: the world that they see while the registry is in
some state, the moment and the convention. -/
structure View (World : Type) where
  look : Registry World → World
  now : UInt64
  installed : Installed

/-- A snapshot that was taken of the meter behind a handle, and the records that were written for
it; none if it was skipped. -/
structure Shot (Record : Type) where
  handle : Nat
  snapshot : Snapshot
  records : Option (List Record)

/-- What has been collected of a batch. -/
structure Collected (World Record Cache : Type) where
  registry : Registry World
  cache : Cache
  records : List Record
  skipped : Nat
  shots : List (Shot Record)
  events : List LogEvent

/-- What a publish has come to. -/
structure Progress (World Record Cache : Type) where
  registry : Registry World
  cache : Cache
  summary : PublishSummary
  shots : List (Shot Record)
  encoded : List (List Record)
  payloads : List Payload
  events : List LogEvent

section

variable {World Record Cache : Type}

/-- Takes the snapshot of one meter and writes it, unless nothing in it is finite. -/
def collect (backend : Backend Record Cache) (view : View World)
    (c : Collected World Record Cache) (handle : Nat) : Collected World Record Cache :=
  match c.registry.meter? handle,
      c.registry.take handle backend.unit (view.look c.registry) view.now with
  | some m, some (snapshot, registry) =>
    if snapshot.hasFiniteValue then
      let written := backend.write c.cache m.id m.form snapshot view.installed
      { registry := registry
        cache := written.cache
        records := c.records ++ written.records
        skipped := c.skipped
        shots := c.shots ++ [⟨handle, snapshot, some written.records⟩]
        events := c.events ++ written.events }
    else
      { c with
        registry := registry
        skipped := c.skipped + 1
        shots := c.shots ++ [⟨handle, snapshot, none⟩] }
  | _, _ => c

/-- What is collected of one batch. -/
def collectBatch (backend : Backend Record Cache) (view : View World) (r : Registry World)
    (cache : Cache) (batch : List Nat) : Collected World Record Cache :=
  batch.foldl (collect backend view) ⟨r, cache, [], 0, [], []⟩

/-- What is logged about payloads if there is nothing to run a send on. -/
def dropEvents (backend : Backend Record Cache) (runtime : Bool) (payloads : List Payload) :
    List LogEvent :=
  if runtime then [] else payloads.map fun _ => .dropped backend.name

/-- Writes and encodes one batch. A batch without records is not encoded, and one that cannot be
encoded is lost. -/
def publishBatch (backend : Backend Record Cache) (view : View World) (runtime : Bool)
    (p : Progress World Record Cache) (batch : List Nat) : Progress World Record Cache :=
  let c := collectBatch backend view p.registry p.cache batch
  let summary :=
    { p.summary with
      batches := p.summary.batches + 1
      skipped := p.summary.skipped + c.skipped }
  if c.records.isEmpty then
    { p with
      registry := c.registry
      cache := c.cache
      summary := summary
      shots := p.shots ++ c.shots
      events := p.events ++ c.events }
  else
    let encoded := backend.encode c.records
    let summary := { summary with records := summary.records + c.records.length }
    match encoded.result with
    | .ok payloads =>
      { registry := c.registry
        cache := c.cache
        summary := { summary with payloads := summary.payloads + payloads.length }
        shots := p.shots ++ c.shots
        encoded := p.encoded ++ [c.records]
        payloads := p.payloads ++ payloads
        events := p.events ++ c.events ++ encoded.events ++ dropEvents backend runtime payloads }
    | .error e =>
      { registry := c.registry
        cache := c.cache
        summary := summary
        shots := p.shots ++ c.shots
        encoded := p.encoded ++ [c.records]
        payloads := p.payloads
        events := p.events ++ c.events ++ encoded.events ++ [.encodingFailed backend.name e] }

end

/-- What one publish gives: the publisher and the registry after it, what it did, the snapshots it
took, the lists of records it had encoded, the payloads that were handed to the sender, and what is
logged. -/
structure Iteration (World Record Cache : Type) where
  publisher : Publisher Record Cache
  registry : Registry World
  summary : PublishSummary
  shots : List (Shot Record)
  encoded : List (List Record)
  handed : List Payload
  events : List LogEvent

namespace Publisher

variable {World Record Cache : Type}

/-- A publisher for a backend, if its settings can be used. The convention that the backend prefers
is installed once. -/
def new (backend : Backend Record Cache) (config : StepConfig) (serial : Nat) :
    Except Error (Publisher Record Cache) := do
  config.validate
  pure
    { backend := backend
      config := config
      preferred := backend.preferred.map fun c => ⟨serial, c⟩
      cache := backend.fresh
      stats := Stats.start
      inFlight := [] }

/-- The convention of a publish: the registry's own, else the preferred one, else names as they
are. -/
def conventionFor (p : Publisher Record Cache) (r : Registry World) : Installed :=
  match r.explicit, p.preferred with
  | some installed, _ => installed
  | none, some installed => installed
  | none, none => r.convention

/-- The snapshots of all meters, written and encoded batch by batch. -/
def progress (p : Publisher Record Cache) (r : Registry World) (look : Registry World → World)
    (now : UInt64) (runtime : Bool) : Progress World Record Cache :=
  let live := r.meters.map fun m => m.id.toIdentity
  (batches r.handles p.config.batchSize).foldl
    (publishBatch p.backend ⟨look, now, p.conventionFor r⟩ runtime)
    ⟨r, p.backend.retain p.cache live, ⟨0, 0, 0, 0⟩, [], [], [], []⟩

/-- Hands payloads to the sender, or counts them as failed if there is nothing to run a send on. -/
def dispatch (p : Publisher Record Cache) (payloads : List Payload) (runtime : Bool) :
    Publisher Record Cache × List Payload :=
  if runtime then ({ p with inFlight := p.inFlight ++ payloads }, payloads)
  else ({ p with stats := payloads.foldl (fun s _ => s.countFailed) p.stats }, [])

/-- The end of a publish of a registry, with what it has come to: the payloads are dispatched. -/
def concluded (p : Publisher Record Cache) (r : Registry World)
    (done : Progress World Record Cache) (runtime : Bool) : Iteration World Record Cache :=
  let (p', handed) := { p with cache := done.cache }.dispatch done.payloads runtime
  { publisher := p'
    registry := done.registry
    summary := done.summary
    shots := done.shots
    encoded := done.encoded
    handed := handed
    events := done.events ++
      [.published p.backend.name r.size done.summary.batches done.summary.payloads] }

/-- One publish of all registered meters. -/
def iterate (p : Publisher Record Cache) (r : Registry World) (look : Registry World → World)
    (now : UInt64) (runtime : Bool) : Iteration World Record Cache :=
  p.concluded r (p.progress r look now runtime) runtime

/-- The numbers after an answer, and what is logged about it. -/
def judge (p : Publisher Record Cache) (payload : Payload) (answer : Answer) :
    Stats × LogEvent :=
  match answer with
  | .ok response =>
    if response.isSuccess then (p.stats.countSent, .sent p.backend.name payload.records)
    else (p.stats.countFailed, .rejected p.backend.name response)
  | .error e => (p.stats.countFailed, .sendFailed p.backend.name e)

/-- The send at a position among those in flight ends with an answer. -/
def answered (p : Publisher Record Cache) (position : Nat) (answer : Answer) :
    Publisher Record Cache × List LogEvent :=
  match p.inFlight[position]? with
  | none => (p, [])
  | some payload =>
    let (stats, event) := p.judge payload answer
    ({ p with stats := stats, inFlight := p.inFlight.eraseIdx position }, [event])

/-- The outline of a publisher. -/
def outline (p : Publisher Record Cache) : String :=
  Outline.openRecord "StepPublisher"
    [("backend", Outline.text p.backend.name), ("config", p.config.outline),
     ("stats", p.stats.outline)]

end Publisher

end Telemetry
