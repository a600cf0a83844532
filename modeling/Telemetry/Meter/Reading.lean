import Telemetry.Meter.Instrument

/-!
# Readings

What a meter shows to whoever looks at it. Reading changes nothing; in particular it does not start
a timer, a summary or a watched total again as publishing does. An idle meter shows zeros, an idle
gauge shows that it has no value.

## Main definitions

* `Reading`: what meters of each form show.
* `Instrument.reading`: the reading of an instrument at a moment.
-/

namespace Telemetry

/-- What a meter shows. The total time of a function timer is a number of units; all other times are
spans. -/
inductive Reading
  | counter (count : Float)
  | gauge (value : Float)
  | timer (count : UInt64) (total longest mean : Span)
  | summary (count : UInt64) (total max mean : Float)
  | longTasks (active : Nat) (duration : Span)
  | functionCounter (count : Float)
  | functionTimer (count total : Float)
  | custom (measurements : List Measurement)

namespace Instrument

variable {World : Type}

/-- What an instrument shows at a moment, the total time of a function timer in the given unit. -/
def reading (unit : TimeUnit) (world : World) (now : UInt64) : Instrument World → Reading
  | counter state => .counter (counted state)
  | gauge value => .gauge (gauged value world)
  | timer none => .timer 0 Span.zero Span.zero Span.zero
  | timer (some t) => .timer t.count t.totalTime t.longest t.mean
  | summary none => .summary 0 0 0 0
  | summary (some s) => .summary s.count s.total s.max s.mean
  | longTasks none => .longTasks 0 Span.zero
  | longTasks (some t) => .longTasks t.activeTasks (t.totalDuration now)
  | functionCounter none => .functionCounter 0
  | functionCounter (some c) => .functionCounter (c.count world)
  | functionTimer none => .functionTimer 0 0
  | functionTimer (some t) => .functionTimer (t.count world) (t.totalTime world unit)
  | custom none => .custom []
  | custom (some read) => .custom (read world)

end Instrument

end Telemetry
