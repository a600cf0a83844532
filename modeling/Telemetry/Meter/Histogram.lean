import Telemetry.Meter.Measurement

/-!
# Histograms

A histogram counts recorded values by the first of its upper bounds that they do not exceed. Bounds
that are not finite are dropped, the others are sorted and equal ones are merged; if none is left
there is no histogram. Taking a histogram empties its buckets.

## Main definitions

* `Histogram.ofBounds?`: the empty histogram of a list of bounds.
* `Histogram.record`, `Histogram.take`: count a value; read the counts and start again.
* `cumulative`: the counts added up from the lowest bucket.
-/

namespace Telemetry

/-- A bucket: its upper bound, and the number of values that fell into it. -/
structure Bucket where
  upperBound : Float
  count : UInt64

/-- Position of a number in the total order of floating-point numbers, in which the negative zero
comes before the positive one. -/
def totalOrderKey (x : Float) : Int :=
  let bits : Nat := x.toBits.toNat
  if bits < 0x8000000000000000 then bits else 0x7FFFFFFFFFFFFFFF - (bits : Int)

/-- The sum of two words, or the largest word if the sum does not fit. -/
def saturatingAdd (a b : UInt64) : UInt64 :=
  if a.toNat + b.toNat < UInt64.size then a + b else 0xFFFFFFFFFFFFFFFF

/-- The buckets of a snapshot with the counts added up, up to the largest word. -/
def cumulative (buckets : List Bucket) : List Bucket :=
  go 0 buckets
where
  /-- The counts of the lower buckets are `below` together. -/
  go (below : UInt64) : List Bucket → List Bucket
    | [] => []
    | b :: rest =>
      let sum := saturatingAdd below b.count
      ⟨b.upperBound, sum⟩ :: go sum rest

/-- The bounds of a histogram and what fell into each bucket since it was last taken. -/
structure Histogram where
  buckets : List Bucket

namespace Histogram

/-- What follows a bound, without the bounds that equal the one kept before them. -/
def dropRepeats (kept : Float) : List Float → List Float
  | [] => []
  | x :: rest => if kept == x then dropRepeats kept rest else x :: dropRepeats x rest

/-- Sorted bounds with equal ones merged into the first of them. -/
def mergeEqual : List Float → List Float
  | [] => []
  | x :: rest => x :: dropRepeats x rest

/-- The bounds that are kept: the finite ones, ascending, without equal neighbours. -/
def keptBounds (bounds : List Float) : List Float :=
  mergeEqual ((bounds.filter (·.isFinite)).mergeSort fun a b =>
    decide (totalOrderKey a ≤ totalOrderKey b))

/-- The empty histogram with the given bounds, unless no bound is kept. -/
def ofBounds? (bounds : List Float) : Option Histogram :=
  match keptBounds bounds with
  | [] => none
  | kept => some ⟨kept.map fun b => ⟨b, 0⟩⟩

/-- Counts a value in the first bucket whose bound it does not exceed. -/
def recordIn (value : Float) : List Bucket → List Bucket
  | [] => []
  | b :: rest =>
    if value ≤ b.upperBound then { b with count := b.count + 1 } :: rest
    else b :: recordIn value rest

/-- Counts a value. -/
def record (h : Histogram) (value : Float) : Histogram := ⟨recordIn value h.buckets⟩

/-- The buckets with their bounds divided by `divisor`, and the histogram emptied. -/
def take (h : Histogram) (divisor : Float) : List Bucket × Histogram :=
  (h.buckets.map fun b => { b with upperBound := b.upperBound / divisor },
   ⟨h.buckets.map fun b => { b with count := 0 }⟩)

end Histogram

end Telemetry
