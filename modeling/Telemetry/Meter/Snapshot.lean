import Telemetry.Meter.Histogram

/-!
# Snapshots

What a meter reports in one publish: its measurements, and the buckets of its histogram if it has
one.
-/

namespace Telemetry

/-- The measurements of a meter at one moment, and its buckets. -/
structure Snapshot where
  measurements : List Measurement
  histogram : Option (List Bucket)

namespace Snapshot

/-- A snapshot without a histogram. -/
def ofMeasurements (measurements : List Measurement) : Snapshot := ⟨measurements, none⟩

/-- The first value of a statistic. -/
def value? (s : Snapshot) (statistic : Statistic) : Option Float :=
  (s.measurements.find? fun m => m.statistic == statistic).map (·.value)

/-- Whether any measurement is finite. A meter without one is not published. -/
def hasFiniteValue (s : Snapshot) : Bool := s.measurements.any fun m => m.value.isFinite

end Snapshot

end Telemetry
