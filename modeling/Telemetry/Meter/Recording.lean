import Telemetry.Meter.Instrument

/-!
# Recording

What an application does to its meters. Each operation concerns one form of instrument; an idle
instrument, and one of another form, is left as it is.
-/

namespace Telemetry.Instrument

variable {World : Type}

/-- Counts an amount. -/
def increment (amount : Float) : Instrument World → Instrument World
  | counter (some c) => counter (some (c.increment amount))
  | i => i

/-- Records a span in a timer. -/
def recordSpan (span : Span) : Instrument World → Instrument World
  | timer (some t) => timer (some (t.record span))
  | i => i

/-- Records an amount of seconds in a timer. -/
def recordSeconds (seconds : Float) : Instrument World → Instrument World
  | timer (some t) => timer (some (t.recordSeconds seconds))
  | i => i

/-- Records an amount in a summary. -/
def recordAmount (amount : Float) : Instrument World → Instrument World
  | summary (some s) => summary (some (s.record amount))
  | i => i

/-- Starts a task of a long task timer; an idle one numbers every task zero. -/
def startTask (now : UInt64) : Instrument World → UInt64 × Instrument World
  | longTasks (some t) =>
    let (task, t') := t.begin now
    (task, longTasks (some t'))
  | i => (0, i)

/-- Ends a task of a long task timer, and tells how long it has been running if it was. -/
def stopTask (now task : UInt64) : Instrument World → Option Span × Instrument World
  | longTasks (some t) =>
    let (span, t') := t.stop now task
    (span, longTasks (some t'))
  | i => (none, i)

/-- How long a task of a long task timer has been running, if it is. -/
def taskDuration? (now task : UInt64) : Instrument World → Option Span
  | longTasks (some t) => t.duration? now task
  | _ => none

end Telemetry.Instrument
