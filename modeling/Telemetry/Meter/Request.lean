import Telemetry.Meter.Instrument

/-!
# Requests for meters

What an application says about a meter before it has it: the id, and how the instrument is to work
if it turns out that the meter has to be made. A request says nothing about meters that are there
already; if there is one for the id, its instrument stays.

## Main definitions

* `Recipe`: how an instrument of each form is to work.
* `Recipe.instrument`: the instrument that has recorded nothing.
* `MeterRequest`: an id and a recipe; `MeterRequest.outline` shows it.
-/

namespace Telemetry

/-- How a new instrument is to work. -/
inductive Recipe (World : Type)
  | counter
  | gauge (value : World → Float)
  | timer (bounds : List Span)
  | summary (scale : Float) (bounds : List Float)
  | longTasks
  | functionCounter (count : World → Option Float)
  | functionTimer (read : World → Option (Float × Float)) (unit : TimeUnit)
  | custom (measurements : World → List Measurement)

namespace Recipe

variable {World : Type}

/-- The kind of the meters that a recipe makes. -/
def kind : Recipe World → Kind
  | counter => .counter
  | gauge _ => .gauge
  | timer _ => .timer
  | summary _ _ => .distributionSummary
  | longTasks => .longTaskTimer
  | functionCounter _ => .functionCounter
  | functionTimer _ _ => .functionTimer
  | custom _ => .other

/-- The instrument of a recipe. -/
def instrument : Recipe World → Instrument World
  | counter => .counter (some .start)
  | gauge value => .gauge (some value)
  | timer bounds => .timer (some (.start bounds))
  | summary scale bounds => .summary (some (.start scale bounds))
  | longTasks => .longTasks (some .start)
  | functionCounter count => .functionCounter (some (.start count))
  | functionTimer read unit => .functionTimer (some (.start read unit))
  | custom measurements => .custom (some measurements)

/-- An instrument has the form that its recipe says. -/
@[simp] theorem form_instrument (r : Recipe World) : r.instrument.form = r.kind := by
  cases r <;> rfl

/-- An instrument that was made works. -/
@[simp] theorem isIdle_instrument (r : Recipe World) : r.instrument.isIdle = false := by
  cases r <;> rfl

/-- The outline of a request with this recipe for an id that is outlined already. Functions of the
application have no outline. -/
def outline (id : String) : Recipe World → String
  | counter => Outline.record "CounterBuilder" [("id", id)]
  | gauge _ => Outline.openRecord "GaugeBuilder" [("id", id)]
  | timer bounds =>
    Outline.record "TimerBuilder"
      [("id", id), ("buckets", Outline.list (bounds.map Span.outline))]
  | summary scale bounds =>
    Outline.record "DistributionSummaryBuilder"
      [("id", id), ("scale", Outline.number.write scale),
       ("buckets", Outline.list (bounds.map Outline.number.write))]
  | longTasks => Outline.record "LongTaskTimerBuilder" [("id", id)]
  | functionCounter _ => Outline.openRecord "FunctionCounterBuilder" [("id", id)]
  | functionTimer _ unit =>
    Outline.openRecord "FunctionTimerBuilder" [("id", id), ("total_time_unit", unit.outline)]
  | custom _ => Outline.openRecord "CustomMeterBuilder" [("id", id)]

end Recipe

/-- Whether meters of a kind are told a base unit. Meters that measure time are not: what publishes
them says which unit it uses. -/
def Kind.hasBaseUnit : Kind → Bool
  | .timer | .longTaskTimer | .functionTimer => false
  | _ => true

/-- An id without the base unit that meters of its kind are not told. -/
def Id.fitting (id : Id) : Id := if id.kind.hasBaseUnit then id else { id with baseUnit := none }

/-- A meter that is asked for. -/
structure MeterRequest (World : Type) where
  id : Id
  recipe : Recipe World

namespace MeterRequest

variable {World : Type}

/-- A request for a meter with a name and nothing else. -/
def new (name : String) (recipe : Recipe World) : MeterRequest World :=
  ⟨.new name recipe.kind, recipe⟩

/-- The same request with a change to its id. -/
def say (r : MeterRequest World) (change : Id → Id) : MeterRequest World :=
  { r with id := change r.id }

/-- The outline of a request. -/
def outline (r : MeterRequest World) : String := r.recipe.outline r.id.outline

end MeterRequest

namespace Meter

variable {World : Type}

/-- How outlines name meters of a form. -/
def outlineName : Kind → String
  | .other => "CustomMeter"
  | form => form.outline

/-- The outline of a meter. -/
def outline (m : Meter World) : String :=
  Outline.openRecord (outlineName m.form)
    [("id", m.id.outline), ("noop", Outline.flag m.isIdle)]

end Meter

end Telemetry
