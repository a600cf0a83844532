import Telemetry.Meter.Watched
import Telemetry.Publish.Lifecycle

/-!
# The world that meters watch

Objects of the application whose numbers are of interest, and the publishers, whose state can be
watched as well. An object is gone once nobody holds it; a publisher is gone once its handle is. What
reads from something that is gone reads nothing.
-/

namespace Telemetry

/-- The numbers of an object. -/
structure Observed where
  count : Float
  total : Float
  measurements : List Measurement

/-- What can be watched: objects and the states of publishers, by number, as long as they are
there. -/
structure World where
  objects : List (Option Observed)
  states : List (Option State)

namespace World

/-- An object that is there. -/
def object? (w : World) (n : Nat) : Option Observed := (w.objects[n]?).join

/-- The state of a publisher that is there. -/
def state? (w : World) (n : Nat) : Option State := (w.states[n]?).join

end World

/-- Reads the count of an object. -/
def readCount (n : Nat) (w : World) : Option Float := (w.object? n).map (·.count)

/-- Reads the count and the total time of an object. -/
def readCountAndTotal (n : Nat) (w : World) : Option (Float × Float) :=
  (w.object? n).map fun o => (o.count, o.total)

/-- Reads all measurements of an object. -/
def readMeasurements (n : Nat) (w : World) : List Measurement :=
  match w.object? n with
  | none => []
  | some o => o.measurements

/-- The value of a gauge on the count of an object. -/
def gaugeCount (n : Nat) (w : World) : Float := (readCount n w).getD notANumber

/-- The value of a gauge on the state of a publisher. -/
def gaugeState (n : Nat) (w : World) : Float :=
  match w.state? n with
  | none => notANumber
  | some s => s.code

end Telemetry
