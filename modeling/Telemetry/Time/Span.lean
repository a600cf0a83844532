import Telemetry.Decimal.Binary
import Telemetry.Decimal.Notation

/-!
# Spans of time

A span is a whole number of nanoseconds, from zero up to the largest that fits 64-bit seconds.

## Main definitions

* `Span`: the type; `Span.clamp` makes one of any number of nanoseconds.
* `Span.add`: the sum, which stops at the longest span.
* `Span.ofSeconds?`, `Span.toSeconds`: to and from floating-point seconds.
* `Span.outline`: the short text with the largest unit that fits.
-/

namespace Telemetry

/-- The number of nanoseconds in a second. -/
def nanosPerSecond : Nat := 1000000000

/-- The nanoseconds of the longest span: one less than `2 ^ 64` seconds. -/
def longestNanos : Nat := UInt64.size * nanosPerSecond - 1

/-- A span of time in nanoseconds. -/
structure Span where
  nanos : Nat
  le_longest : nanos ≤ longestNanos
deriving DecidableEq

namespace Span

/-- The span of so many nanoseconds, or the longest span if there are too many. -/
def clamp (n : Nat) : Span := ⟨min n longestNanos, Nat.min_le_right _ _⟩

/-- The empty span. -/
def zero : Span := ⟨0, Nat.zero_le _⟩

instance : Inhabited Span := ⟨zero⟩

/-- The longest span. -/
def longest : Span := ⟨longestNanos, Nat.le_refl _⟩

/-- The span of so many whole seconds and nanoseconds. -/
def of (seconds nanos : Nat) : Span := clamp (seconds * nanosPerSecond + nanos)

/-- The whole seconds of a span. -/
def seconds (s : Span) : Nat := s.nanos / nanosPerSecond

/-- The nanoseconds of a span beyond its whole seconds. -/
def subsecond (s : Span) : Nat := s.nanos % nanosPerSecond

/-- The sum of two spans, or the longest span. -/
def add (a b : Span) : Span := clamp (a.nanos + b.nanos)

/-- The nanoseconds of a span as a 64-bit word, or the largest word. -/
def nanosWord (s : Span) : UInt64 := UInt64.ofNat (min s.nanos (UInt64.size - 1))

/-- The span of a word of nanoseconds. -/
def ofWord (n : UInt64) : Span := clamp n.toNat

/-- The span in floating-point seconds: whole seconds and fraction are converted apart. -/
def toSeconds (s : Span) : Float :=
  Float.ofNat s.seconds + Float.ofNat s.subsecond / 1000000000

/-- The span of so many seconds, rounded to the nearest nanosecond, a half to the even one. There is
none for a negative number, for one of `2 ^ 64` or more, and for what is not a number. -/
def ofSeconds? (x : Float) : Option Span :=
  match Decimal.decode x with
  | .finite negative m q =>
    let nanos := Decimal.roundHalfEven (m * nanosPerSecond * Decimal.twoTo q.toNat)
      (Decimal.twoTo (-q).toNat)
    if negative ∧ m ≠ 0 then none
    else if h : nanos ≤ longestNanos then some ⟨nanos, h⟩
    else none
  | _ => none

/-- A whole part with `fraction` out of `10 ^ places` behind the point, less its trailing zeros. -/
def withFraction (whole fraction places : Nat) : String :=
  let digits := Nat.toDigits 10 fraction
  let padded := List.replicate (places - digits.length) '0' ++ digits
  let shown := (padded.reverse.dropWhile (· == '0')).reverse
  String.ofList (Nat.toDigits 10 whole ++ if shown.isEmpty then [] else '.' :: shown)

/-- The span in the largest of the units s, ms, µs and ns in which it is at least one. -/
def outline (s : Span) : String :=
  if s.seconds > 0 then withFraction s.seconds s.subsecond 9 ++ "s"
  else if s.nanos ≥ 1000000 then withFraction (s.nanos / 1000000) (s.nanos % 1000000) 6 ++ "ms"
  else if s.nanos ≥ 1000 then withFraction (s.nanos / 1000) (s.nanos % 1000) 3 ++ "µs"
  else withFraction s.nanos 0 0 ++ "ns"

end Span

end Telemetry
