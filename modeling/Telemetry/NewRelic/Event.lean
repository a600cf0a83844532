import Telemetry.Json.Text
import Telemetry.Meter.Snapshot
import Telemetry.Naming.Cache

/-!
# New Relic events

A meter becomes one event, a flat JSON object. First comes the type of the event, then what the
meter measured, then the name and type of the meter if all events share one type, and last the
tags. What is put in later replaces what was there, except that a tag never replaces anything.

## Main definitions

* `Fragments`: the parts of an event that only depend on the identity.
* `attributes`: what a form of meter reports, if all of it is finite.
* `event`: the event of a meter.
-/

namespace Telemetry.NewRelic

/-- The name, type and tags of a meter. -/
structure Fragments where
  name : String
  type : String
  tags : List (String × String)
deriving DecidableEq

/-- The type of a meter, as New Relic calls the kinds. -/
def metricType : Kind → String
  | .counter | .functionCounter => "COUNTER"
  | .gauge => "GAUGE"
  | .timer | .functionTimer => "TIMER"
  | .distributionSummary => "DISTRIBUTION_SUMMARY"
  | .longTaskTimer => "LONG_TASK_TIMER"
  | .other => "OTHER"

/-- How the fixed parts of an event are written. There is no text for a statistic alone. -/
def renderRules : RenderRules Fragments where
  render id convention :=
    ⟨id.conventionName convention, metricType id.kind, id.conventionTags convention⟩
  renderStatistic fragments _ := fragments.name

/-- An average; zero if nothing was counted. -/
def mean (total count : Float) : Float := if 0 < count then total / count else 0

/-- The numbers that a form of meter reports. A statistic that is missing is not a number. -/
def numbers (form : Kind) (snapshot : Snapshot) : List (String × Float) :=
  let stat := fun statistic => (snapshot.value? statistic).getD notANumber
  match form with
  | .counter | .functionCounter => [("throughput", stat .count)]
  | .gauge => [("value", stat .value)]
  | .timer =>
    [("count", stat .count), ("avg", mean (stat .totalTime) (stat .count)),
     ("totalTime", stat .totalTime), ("max", stat .max)]
  | .distributionSummary =>
    [("count", stat .count), ("avg", mean (stat .total) (stat .count)),
     ("total", stat .total), ("max", stat .max)]
  | .longTaskTimer => [("activeTasks", stat .activeTasks), ("duration", stat .duration)]
  | .functionTimer =>
    [("count", stat .count), ("avg", mean (stat .totalTime) (stat .count)),
     ("totalTime", stat .totalTime)]
  | .other =>
    (snapshot.measurements.filter (·.value.isFinite)).map fun m => (m.statistic.name, m.value)

/-- Whether a form of meter reports times. -/
def isTiming : Kind → Bool
  | .timer | .longTaskTimer | .functionTimer => true
  | _ => false

/-- The attributes of a meter's event. There are none, and so no event, unless it reports something
and all of it is finite. -/
def attributes? (unit : TimeUnit) (form : Kind) (snapshot : Snapshot) :
    Option (List (String × Json.Value)) :=
  let reported := numbers form snapshot
  if reported.isEmpty || reported.any (fun n => !n.2.isFinite) then none
  else some (reported.map (fun n => (n.1, .number n.2)) ++
    if isTiming form then [("timeUnit", .text unit.name)] else [])

/-- The event of a meter. Without a shared type, the name of the meter is the type. -/
def event (sharedType : Option String) (fragments : Fragments)
    (attributes : List (String × Json.Value)) : Json.Object :=
  let typed := TextMap.empty.insert "eventType" (.text (sharedType.getD fragments.name))
  let measured := typed.insertAll attributes
  let named := match sharedType with
    | none => measured
    | some _ =>
      (measured.insert "metricName" (.text fragments.name)).insert "metricType"
        (.text fragments.type)
  fragments.tags.foldl (fun event t => event.insertNew t.1 (.text t.2)) named

end Telemetry.NewRelic
