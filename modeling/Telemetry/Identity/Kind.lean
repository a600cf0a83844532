/-!
# Kinds of meters

There are eight kinds. The order in which they are listed here is their order.
-/

namespace Telemetry

/-- What a meter measures and how. -/
inductive Kind
  | counter
  | gauge
  | timer
  | distributionSummary
  | longTaskTimer
  | functionCounter
  | functionTimer
  | other
deriving DecidableEq, Repr

namespace Kind

/-- All kinds, in their order. -/
def all : List Kind :=
  [counter, gauge, timer, distributionSummary, longTaskTimer, functionCounter, functionTimer, other]

/-- The name of a kind. -/
def name : Kind → String
  | counter => "counter"
  | gauge => "gauge"
  | timer => "timer"
  | distributionSummary => "distribution_summary"
  | longTaskTimer => "long_task_timer"
  | functionCounter => "function_counter"
  | functionTimer => "function_timer"
  | other => "other"

/-- The name of a kind as outlines show it. -/
def outline : Kind → String
  | counter => "Counter"
  | gauge => "Gauge"
  | timer => "Timer"
  | distributionSummary => "DistributionSummary"
  | longTaskTimer => "LongTaskTimer"
  | functionCounter => "FunctionCounter"
  | functionTimer => "FunctionTimer"
  | other => "Other"

/-- The kind with a given name. -/
def ofName? (name : String) : Option Kind := all.find? (·.name == name)

end Kind

end Telemetry
