import Telemetry.Time.Unit

/-!
# Measurements

A measurement is a number and what it says about a meter.
-/

namespace Telemetry

/-- What a number says about a meter. -/
inductive Statistic
  | total
  | totalTime
  | count
  | max
  | value
  | unknown
  | activeTasks
  | duration
deriving DecidableEq, Repr

namespace Statistic

/-- All statistics, in their order. -/
def all : List Statistic :=
  [total, totalTime, count, max, value, unknown, activeTasks, duration]

/-- The name of a statistic, which is also its tag value. -/
def name : Statistic → String
  | total => "total"
  | totalTime => "total_time"
  | count => "count"
  | max => "max"
  | value => "value"
  | unknown => "unknown"
  | activeTasks => "active_tasks"
  | duration => "duration"

/-- The statistic with a given name. -/
def ofName? (name : String) : Option Statistic := all.find? (·.name == name)

end Statistic

/-- A number and what it says about a meter. -/
structure Measurement where
  statistic : Statistic
  value : Float

/-- The value of what cannot be measured: not a number. -/
def notANumber : Float := 0 / 0

/-- The base units that meters commonly have. -/
def commonBaseUnits : List String :=
  ["bytes", "rows", "tasks", "threads", "classes", "buffers", "events", "files", "sessions"]

end Telemetry
