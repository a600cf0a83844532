import Telemetry.Identity.Id
import Telemetry.Meter.Counter
import Telemetry.Meter.LongTasks
import Telemetry.Meter.Summary
import Telemetry.Meter.Timer
import Telemetry.Meter.Watched

/-!
# Meters

A meter is an id together with an instrument: one of eight forms, each with its own state. An
instrument without state discards what it is given and measures nothing; such a meter is handed out
when a registration is denied.

## Main definitions

* `Instrument`: the eight forms.
* `Instrument.measure`: the current measurements; changes nothing.
* `Instrument.take`: the snapshot of a publish, and the instrument after it.
* `Meter`: an id and an instrument.
-/

namespace Telemetry

/-- The working part of a meter in one of eight forms, without state if it is to do nothing.
Watching forms read from `World`. -/
inductive Instrument (World : Type)
  | counter (state : Option Counter)
  | gauge (value : Option (World → Float))
  | timer (state : Option Timer)
  | summary (state : Option Summary)
  | longTasks (state : Option LongTasks)
  | functionCounter (state : Option (FunctionCounter World))
  | functionTimer (state : Option (FunctionTimer World))
  | custom (measurements : Option (World → List Measurement))

namespace Instrument

variable {World : Type}

/-- The kind whose form an instrument has. -/
def form : Instrument World → Kind
  | counter _ => .counter
  | gauge _ => .gauge
  | timer _ => .timer
  | summary _ => .distributionSummary
  | longTasks _ => .longTaskTimer
  | functionCounter _ => .functionCounter
  | functionTimer _ => .functionTimer
  | custom _ => .other

/-- The instrument of a kind that does nothing. -/
def idle : Kind → Instrument World
  | .counter => counter none
  | .gauge => gauge none
  | .timer => timer none
  | .distributionSummary => summary none
  | .longTaskTimer => longTasks none
  | .functionCounter => functionCounter none
  | .functionTimer => functionTimer none
  | .other => custom none

/-- Whether an instrument does nothing. -/
def isIdle : Instrument World → Bool
  | counter state => state.isNone
  | gauge value => value.isNone
  | timer state => state.isNone
  | summary state => state.isNone
  | longTasks state => state.isNone
  | functionCounter state => state.isNone
  | functionTimer state => state.isNone
  | custom measurements => measurements.isNone

/-- An idle instrument has the form of its kind. -/
@[simp] theorem form_idle (kind : Kind) : (idle kind : Instrument World).form = kind := by
  cases kind <;> rfl

/-- An idle instrument does nothing. -/
@[simp] theorem isIdle_idle (kind : Kind) : (idle kind : Instrument World).isIdle = true := by
  cases kind <;> rfl

/-- The number a counter stands at; zero if it is idle. -/
def counted (state : Option Counter) : Float :=
  match state with
  | none => 0
  | some c => c.count

/-- The value of a gauge; not a number if it is idle. -/
def gauged (value : Option (World → Float)) (world : World) : Float :=
  match value with
  | none => notANumber
  | some read => read world

/-- The current measurements, times in the given unit. -/
def measure (unit : TimeUnit) (world : World) (now : UInt64) :
    Instrument World → List Measurement
  | counter state => [⟨.count, counted state⟩]
  | gauge value => [⟨.value, gauged value world⟩]
  | timer none => Timer.measurements 0 0 0 unit
  | timer (some t) => t.measure unit
  | summary none => Summary.measurements 0 0 0
  | summary (some s) => s.measure
  | longTasks none => LongTasks.measurements 0 Span.zero unit
  | longTasks (some t) => t.measure now unit
  | functionCounter none => [⟨.count, 0⟩]
  | functionCounter (some c) => [⟨.count, c.count world⟩]
  | functionTimer none => [⟨.count, 0⟩, ⟨.totalTime, 0⟩]
  | functionTimer (some t) => [⟨.count, t.count world⟩, ⟨.totalTime, t.totalTime world unit⟩]
  | custom none => []
  | custom (some read) => read world

/-- The snapshot of a publish, times in the given unit, and the instrument after it. -/
def take (unit : TimeUnit) (world : World) (now : UInt64) :
    Instrument World → Snapshot × Instrument World
  | counter (some c) =>
    let (count, rest) := c.take
    (.ofMeasurements [⟨.count, count⟩], counter (some rest))
  | timer (some t) =>
    let (snapshot, rest) := t.take unit
    (snapshot, timer (some rest))
  | summary (some s) =>
    let (snapshot, rest) := s.take
    (snapshot, summary (some rest))
  | functionCounter (some c) =>
    let (count, rest) := c.take world
    (.ofMeasurements [⟨.count, count⟩], functionCounter (some rest))
  | functionTimer (some t) =>
    let ((count, total), rest) := t.take world unit
    (.ofMeasurements [⟨.count, count⟩, ⟨.totalTime, total⟩], functionTimer (some rest))
  | instrument => (.ofMeasurements (instrument.measure unit world now), instrument)

/-- Taking a snapshot keeps the form of an instrument. -/
theorem form_take (unit : TimeUnit) (world : World) (now : UInt64) (i : Instrument World) :
    (i.take unit world now).2.form = i.form := by
  cases i <;> rename_i s <;> cases s <;> rfl

/-- Taking a snapshot neither stops an instrument nor starts an idle one. -/
theorem isIdle_take (unit : TimeUnit) (world : World) (now : UInt64) (i : Instrument World) :
    (i.take unit world now).2.isIdle = i.isIdle := by
  cases i <;> rename_i s <;> cases s <;> rfl

end Instrument

/-- An id and the instrument that measures for it. -/
structure Meter (World : Type) where
  id : Id
  instrument : Instrument World

namespace Meter

variable {World : Type}

/-- The meter that is handed out for a denied id: of its kind, and idle. -/
def denied (id : Id) : Meter World := ⟨id, .idle id.kind⟩

/-- Whether a meter discards what it is given. -/
def isIdle (m : Meter World) : Bool := m.instrument.isIdle

/-- The form of a meter's instrument. -/
def form (m : Meter World) : Kind := m.instrument.form

end Meter

end Telemetry
