import Telemetry.Meter.Snapshot

/-!
# Distribution summaries

A summary records amounts, each multiplied by the scale of the summary: how many, their sum, the
largest, and into which bucket of its histogram each falls. A product that is not finite or is
negative is not recorded.
-/

namespace Telemetry

/-- What was recorded since the summary was last taken. -/
structure Summary where
  scale : Float
  count : UInt64
  total : Float
  max : Float
  histogram : Option Histogram

namespace Summary

/-- A summary that has recorded nothing, with the given scale and upper bounds. -/
def start (scale : Float) (bounds : List Float) : Summary :=
  ⟨scale, 0, 0, 0, Histogram.ofBounds? bounds⟩

/-- Whether a scaled amount is recorded at all. -/
def accepts (scaled : Float) : Bool := scaled.isFinite && !decide (scaled < 0)

/-- Records an amount. -/
def record (s : Summary) (amount : Float) : Summary :=
  let scaled := amount * s.scale
  if accepts scaled then
    { s with
      count := s.count + 1
      total := s.total + scaled
      max := if s.max < scaled then scaled else s.max
      histogram := s.histogram.map (·.record scaled) }
  else s

/-- The average of the recorded amounts; zero if there are none. -/
def mean (s : Summary) : Float := if s.count = 0 then 0 else s.total / s.count.toFloat

/-- The measurements of a count, a sum and a maximum. -/
def measurements (count : UInt64) (total max : Float) : List Measurement :=
  [⟨.count, count.toFloat⟩, ⟨.total, total⟩, ⟨.max, max⟩]

/-- The current measurements. -/
def measure (s : Summary) : List Measurement := measurements s.count s.total s.max

/-- The measurements and buckets, and the summary started again. -/
def take (s : Summary) : Snapshot × Summary :=
  match s.histogram with
  | none => (⟨s.measure, none⟩, ⟨s.scale, 0, 0, 0, none⟩)
  | some h =>
    let (buckets, emptied) := h.take 1
    (⟨s.measure, some buckets⟩, ⟨s.scale, 0, 0, 0, some emptied⟩)

end Summary

end Telemetry
