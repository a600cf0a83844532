import Telemetry.Meter.Measurement

/-!
# Meters that watch something

Some meters record nothing themselves but read what something else reports. What they read from is
the *world*, a value of any type that is given whenever such a meter is looked at. A watched object
may be gone, and then there is nothing to read.

A function counter and a function timer watch totals that grow. They report the increase since the
last publish, so they remember the total of that publish, their baseline. A total that is not
finite is no basis for an increase: it is reported as not a number and the baseline stays.

## Main definitions

* `increase`: how much a total lies above a baseline.
* `advance`: the increase that is published, and the next baseline.
* `FunctionCounter`, `FunctionTimer`: one watched total, or a count and a total time.
-/

namespace Telemetry

/-- How much a total lies above a baseline; nothing if it does not, or if that cannot be said. -/
def increase (total baseline : Float) : Float :=
  if 0 < total - baseline then total - baseline else 0

/-- The increase that is published for a total, and the next baseline. -/
def advance (baseline total : Float) : Float × Float :=
  if total.isFinite then (increase total baseline, total) else (notANumber, baseline)

/-- A watched total and the baseline of its next increase. -/
structure FunctionCounter (World : Type) where
  read : World → Option Float
  baseline : Float

namespace FunctionCounter

variable {World : Type}

/-- A counter that watches a total and has published nothing. -/
def start (read : World → Option Float) : FunctionCounter World := ⟨read, 0⟩

/-- The increase since the last publish. -/
def count (c : FunctionCounter World) (world : World) : Float :=
  match c.read world with
  | none => notANumber
  | some total => increase total c.baseline

/-- The increase that is published, and the counter after it. -/
def take (c : FunctionCounter World) (world : World) : Float × FunctionCounter World :=
  match c.read world with
  | none => (notANumber, c)
  | some total =>
    let (published, baseline) := advance c.baseline total
    (published, { c with baseline := baseline })

end FunctionCounter

/-- A watched count and a watched total time, each with the baseline of its next increase. -/
structure FunctionTimer (World : Type) where
  read : World → Option (Float × Float)
  unit : TimeUnit
  countBaseline : Float
  totalBaseline : Float

namespace FunctionTimer

variable {World : Type}

/-- A timer that watches a count and a total time and has published nothing. -/
def start (read : World → Option (Float × Float)) (unit : TimeUnit) : FunctionTimer World :=
  ⟨read, unit, 0, 0⟩

/-- A time in the unit of the watched total, in another unit. -/
def rescale (t : FunctionTimer World) (total : Float) (unit : TimeUnit) : Float :=
  unit.scaleSeconds (t.unit.toSeconds total)

/-- The increase of the count since the last publish. -/
def count (t : FunctionTimer World) (world : World) : Float :=
  match t.read world with
  | none => notANumber
  | some (count, _) => increase count t.countBaseline

/-- The increase of the total time since the last publish. -/
def totalTime (t : FunctionTimer World) (world : World) (unit : TimeUnit) : Float :=
  match t.read world with
  | none => notANumber
  | some (_, total) => t.rescale (increase total t.totalBaseline) unit

/-- The increases that are published, and the timer after them. -/
def take (t : FunctionTimer World) (world : World) (unit : TimeUnit) :
    (Float × Float) × FunctionTimer World :=
  match t.read world with
  | none => ((notANumber, notANumber), t)
  | some (count, total) =>
    let (counted, countBaseline) := advance t.countBaseline count
    let (timed, totalBaseline) := advance t.totalBaseline total
    ((counted, t.rescale timed unit),
     { t with countBaseline := countBaseline, totalBaseline := totalBaseline })

end FunctionTimer

end Telemetry
