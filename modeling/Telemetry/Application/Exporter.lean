import Telemetry.NewRelic.Backend
import Telemetry.Plain.Backend
import Telemetry.Statsd.Backend

/-!
# Exporters

A publisher for any of the backends there are. What can be done with a publisher can be done with an
exporter.
-/

namespace Telemetry

/-- A publisher for one of the backends. -/
inductive Exporter
  | statsd (publisher : Publisher String (Shelf Statsd.Fragments))
  | newRelic (publisher : Publisher Json.Object (Shelf NewRelic.Fragments))
  | plain (publisher : Publisher String Unit)

/-- What one publish of an exporter gives. -/
structure Exported (World : Type) where
  exporter : Exporter
  registry : Registry World
  summary : PublishSummary
  handed : List Payload
  events : List LogEvent

namespace Exporter

variable {World : Type}

/-- The name of the backend. -/
def name : Exporter → String
  | statsd p => p.backend.name
  | newRelic p => p.backend.name
  | plain p => p.backend.name

/-- The settings of publishing. -/
def config : Exporter → StepConfig
  | statsd p => p.config
  | newRelic p => p.config
  | plain p => p.config

/-- How many payloads were accepted, and how many were not. -/
def stats : Exporter → Stats
  | statsd p => p.stats
  | newRelic p => p.stats
  | plain p => p.stats

/-- The number of sends in flight. -/
def inFlight : Exporter → Nat
  | statsd p => p.inFlight.length
  | newRelic p => p.inFlight.length
  | plain p => p.inFlight.length

/-- The outline of the publisher. -/
def outline : Exporter → String
  | statsd p => p.outline
  | newRelic p => p.outline
  | plain p => p.outline

/-- The result of a publish, whatever the backend. -/
def exported {Record Cache : Type} (wrap : Publisher Record Cache → Exporter)
    (i : Iteration World Record Cache) : Exported World :=
  ⟨wrap i.publisher, i.registry, i.summary, i.handed, i.events⟩

/-- One publish. -/
def iterate (e : Exporter) (r : Registry World) (look : Registry World → World) (now : UInt64)
    (runtime : Bool) : Exported World :=
  match e with
  | statsd p => exported statsd (p.iterate r look now runtime)
  | newRelic p => exported newRelic (p.iterate r look now runtime)
  | plain p => exported plain (p.iterate r look now runtime)

/-- The end of a send. -/
def answered (e : Exporter) (position : Nat) (answer : Answer) : Exporter × List LogEvent :=
  match e with
  | statsd p =>
    let (p', events) := p.answered position answer
    (statsd p', events)
  | newRelic p =>
    let (p', events) := p.answered position answer
    (newRelic p', events)
  | plain p =>
    let (p', events) := p.answered position answer
    (plain p', events)

end Exporter

end Telemetry
