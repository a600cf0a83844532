import Telemetry.Time.Span

/-!
# Units of time

The units in which amounts of time are reported, and the conversions between them. Nanoseconds per
unit and units per second are exact, so whole amounts convert without rounding noise.
-/

namespace Telemetry

/-- A unit in which time is reported. -/
inductive TimeUnit
  | nanoseconds
  | microseconds
  | milliseconds
  | seconds
deriving DecidableEq, Repr

namespace TimeUnit

/-- All units, from the smallest to the largest. -/
def all : List TimeUnit := [nanoseconds, microseconds, milliseconds, seconds]

/-- The name of a unit. -/
def name : TimeUnit → String
  | nanoseconds => "nanoseconds"
  | microseconds => "microseconds"
  | milliseconds => "milliseconds"
  | seconds => "seconds"

/-- The name of a unit as outlines show it. -/
def outline : TimeUnit → String
  | nanoseconds => "Nanoseconds"
  | microseconds => "Microseconds"
  | milliseconds => "Milliseconds"
  | seconds => "Seconds"

/-- The number of nanoseconds in one unit. -/
def nanosPerUnit : TimeUnit → Float
  | nanoseconds => 1
  | microseconds => 1000
  | milliseconds => 1000000
  | seconds => 1000000000

/-- The number of units in one second. -/
def perSecond : TimeUnit → Float
  | nanoseconds => 1000000000
  | microseconds => 1000000
  | milliseconds => 1000
  | seconds => 1

/-- An amount of seconds in this unit. -/
def scaleSeconds (unit : TimeUnit) (seconds : Float) : Float := seconds * unit.perSecond

/-- An amount of nanoseconds in this unit. -/
def scaleNanos (unit : TimeUnit) (nanos : Float) : Float := nanos / unit.nanosPerUnit

/-- An amount of this unit in seconds. -/
def toSeconds (unit : TimeUnit) (amount : Float) : Float := amount / unit.perSecond

/-- A span in this unit. -/
def convert (unit : TimeUnit) (span : Span) : Float := unit.scaleSeconds span.toSeconds

/-- The span of an amount of this unit, if there is one. -/
def toSpan? (unit : TimeUnit) (amount : Float) : Option Span :=
  Span.ofSeconds? (unit.toSeconds amount)

/-- The unit with a given name. -/
def ofName? (name : String) : Option TimeUnit := all.find? (·.name == name)

end TimeUnit

end Telemetry
