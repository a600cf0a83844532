import Telemetry.Meter.Snapshot

/-!
# Timers

A timer records spans of time: how many, their sum, the longest, and into which bucket of its
histogram each falls. All times are kept in words of nanoseconds, so a longer span counts as the
largest word, and the sum stops there as well.
-/

namespace Telemetry

/-- What was recorded since the timer was last taken. -/
structure Timer where
  count : UInt64
  total : UInt64
  max : UInt64
  histogram : Option Histogram

namespace Timer

/-- A timer that has recorded nothing, with the given upper bounds. -/
def start (bounds : List Span) : Timer :=
  ⟨0, 0, 0, Histogram.ofBounds? (bounds.map fun b => b.nanosWord.toFloat)⟩

/-- Records a span. -/
def record (t : Timer) (span : Span) : Timer :=
  let nanos := span.nanosWord
  { count := t.count + 1
    total := saturatingAdd t.total nanos
    max := if t.max < nanos then nanos else t.max
    histogram := t.histogram.map (·.record nanos.toFloat) }

/-- Records an amount of seconds if it is a span. -/
def recordSeconds (t : Timer) (seconds : Float) : Timer :=
  match Span.ofSeconds? seconds with
  | some span => t.record span
  | none => t

/-- The sum of the recorded spans. -/
def totalTime (t : Timer) : Span := Span.ofWord t.total

/-- The longest recorded span. -/
def longest (t : Timer) : Span := Span.ofWord t.max

/-- The average of the recorded spans, rounded down; zero if there are none. -/
def mean (t : Timer) : Span :=
  if t.count = 0 then Span.zero else Span.ofWord (t.total / t.count)

/-- The measurements of a count, a sum and a maximum in nanoseconds. -/
def measurements (count total max : UInt64) (unit : TimeUnit) : List Measurement :=
  [⟨.count, count.toFloat⟩, ⟨.totalTime, unit.scaleNanos total.toFloat⟩,
   ⟨.max, unit.scaleNanos max.toFloat⟩]

/-- The current measurements. -/
def measure (t : Timer) (unit : TimeUnit) : List Measurement :=
  measurements t.count t.total t.max unit

/-- The measurements and buckets, and the timer started again. -/
def take (t : Timer) (unit : TimeUnit) : Snapshot × Timer :=
  match t.histogram with
  | none => (⟨t.measure unit, none⟩, ⟨0, 0, 0, none⟩)
  | some h =>
    let (buckets, emptied) := h.take unit.nanosPerUnit
    (⟨t.measure unit, some buckets⟩, ⟨0, 0, 0, some emptied⟩)

end Timer

end Telemetry
