import Telemetry.Text.Blank
import Telemetry.Time.Span

/-!
# Spans of time as people write them

Settings hold spans in a `SpanFormat` of the caller's choice. The usual one is made of `Span.text`
and `Span.ofText?`.

The text of a span is a sum of parts, each a number and a unit: `1day 2h`, `1h30m`, `1.5s`. Months
and years have their average length, so every unit is a fixed number of nanoseconds.

Reading accepts several names for a unit, blanks around numbers and units, and a fraction on any
unit but the smallest. Nothing is ever rounded: a fraction has to come out even, in nanoseconds for
units up to the minute and in seconds for longer ones. Reading refuses a number without a unit (a
lone zero apart), an unknown unit and whatever does not fit a 64-bit word on the way. Writing uses
one name for each unit, leaves out the parts that are zero and separates the others by a space.

## Main definitions

* `Scale`: a unit, its names and its length.
* `Span.ofText?`: reads a span, one character after another.
* `Span.text`: writes a span.
* `SpanFormat`: how spans are written and read, `SpanFormat.standard` the usual one.
-/

namespace Telemetry

/-- A unit of the text of a span: all its names, and its length in nanoseconds. -/
structure Scale where
  names : List String
  nanos : Nat

namespace Scale

/-- The units that can be read. -/
def all : List Scale :=
  [⟨["nanos", "nsec", "ns"], 1⟩,
   ⟨["usec", "us", "µs"], 1000⟩,
   ⟨["millis", "msec", "ms"], 1000000⟩,
   ⟨["seconds", "second", "secs", "sec", "s"], nanosPerSecond⟩,
   ⟨["minutes", "minute", "mins", "min", "m"], 60 * nanosPerSecond⟩,
   ⟨["hours", "hour", "hrs", "hr", "h"], 3600 * nanosPerSecond⟩,
   ⟨["days", "day", "d"], 86400 * nanosPerSecond⟩,
   ⟨["weeks", "week", "wks", "wk", "w"], 604800 * nanosPerSecond⟩,
   ⟨["months", "month", "M"], 2630016 * nanosPerSecond⟩,
   ⟨["years", "year", "yrs", "yr", "y"], 31557600 * nanosPerSecond⟩]

/-- The unit with a given name. -/
def named? (name : String) : Option Scale := all.find? (·.names.contains name)

end Scale

namespace Span

/-- A number that fits a 64-bit word. -/
def word? (n : Nat) : Option Nat := if n < UInt64.size then some n else none

/-- A fraction behind a point: `numerator / denominator`. -/
structure Fraction where
  numerator : Nat
  denominator : Nat

/-- Adds nanoseconds to a span if the sum is a span. -/
def plus? (s : Span) (n : Nat) : Option Span :=
  if h : s.nanos + n ≤ longestNanos then some ⟨s.nanos + n, h⟩ else none

/-- The nanoseconds of a whole number of units. Below the second, they and the nanoseconds beyond
the seconds that were read before have to fit a word. -/
def wholeNanos? (before : Span) (scale : Scale) (n : Nat) : Option Nat :=
  if scale.nanos < nanosPerSecond then
    (word? (n * scale.nanos)).bind fun k => (word? (before.subsecond + k)).map fun _ => k
  else some (n * scale.nanos)

/-- A fraction of a number, if it is a whole number and the product on the way to it fits a word. -/
def Fraction.of? (f : Fraction) (n : Nat) : Option Nat :=
  (word? (f.numerator * n)).bind fun k =>
    if k % f.denominator = 0 then some (k / f.denominator) else none

/-- The nanoseconds of a fraction of a unit. It has to be a whole number of nanoseconds for units up
to the minute, and of seconds for longer ones. The smallest unit has no fractions. -/
def fractionNanos? (scale : Scale) (f : Fraction) : Option Nat :=
  if scale.nanos = 1 then none
  else if scale.nanos ≤ 60 * nanosPerSecond then f.of? scale.nanos
  else (f.of? (scale.nanos / nanosPerSecond)).map (· * nanosPerSecond)

/-- Adds a number of units, given by their name, to what has been read before. -/
def addPart? (before : Span) (n : Nat) (fraction : Option Fraction) (unit : List Char) :
    Option Span := do
  let scale ← Scale.named? (String.ofList unit)
  let whole ← wholeNanos? before scale n
  let sum ← before.plus? whole
  match fraction with
  | none => some sum
  | some f =>
    let rest ← fractionNanos? scale f
    sum.plus? rest

/-- Where reading stands within a part. -/
inductive Stage
  /-- Before the first digit of a part. -/
  | ahead
  /-- Within the whole number. -/
  | whole (n : Nat)
  /-- Behind the point. -/
  | fraction (n : Nat) (read : Fraction)
  /-- Within the unit, whose characters are kept in reverse. -/
  | unit (n : Nat) (read : Option Fraction) (name : List Char)

/-- Whether a character may occur in the name of a unit. -/
def isUnitChar (c : Char) : Bool := c.isAlpha || c == 'µ'

/-- The value of a digit. -/
def digitValue (c : Char) : Nat := c.toNat - '0'.toNat

/-- One more digit on a number, if the result fits a word. -/
def pushDigit? (n : Nat) (c : Char) : Option Nat := word? (n * 10 + digitValue c)

/-- Reads the rest of a text. `total` holds the parts that are complete, if there are any. -/
def readFrom : Option Span → Stage → List Char → Option Span
  | total, .ahead, [] => total
  | _, .whole _, [] => none
  | _, .fraction _ _, [] => none
  | total, .unit n f name, [] => addPart? (total.getD zero) n f name.reverse
  | total, .ahead, c :: rest =>
    if c.isDigit then readFrom total (.whole (digitValue c)) rest
    else if Text.isBlank c then readFrom total .ahead rest
    else none
  | total, .whole n, c :: rest =>
    if c.isDigit then
      match pushDigit? n c with
      | some n' => readFrom total (.whole n') rest
      | none => none
    else if Text.isBlank c then readFrom total (.whole n) rest
    else if isUnitChar c then readFrom total (.unit n none [c]) rest
    else if c = '.' then readFrom total (.fraction n ⟨0, 1⟩) rest
    else none
  | total, .fraction n f, c :: rest =>
    if c.isDigit then
      match word? (f.denominator * 10), pushDigit? f.numerator c with
      | some d, some k => readFrom total (.fraction n ⟨k, d⟩) rest
      | _, _ => none
    else if Text.isBlank c then readFrom total (.fraction n f) rest
    else if isUnitChar c then
      if f.denominator = 1 then none else readFrom total (.unit n (some f) [c]) rest
    else none
  | total, .unit n f name, c :: rest =>
    if c.isDigit then
      match addPart? (total.getD zero) n f name.reverse with
      | some sum => readFrom (some sum) (.whole (digitValue c)) rest
      | none => none
    else if Text.isBlank c then
      match addPart? (total.getD zero) n f name.reverse with
      | some sum => readFrom (some sum) .ahead rest
      | none => none
    else if isUnitChar c then readFrom total (.unit n f (c :: name)) rest
    else none

/-- Reads a span. A zero needs no unit. -/
def ofText? (s : String) : Option Span :=
  if s = "0" then some zero else readFrom none .ahead s.toList

/-- One part of a written span; nothing if it is zero. -/
def part (n : Nat) (unit : String) : List String :=
  if n = 0 then [] else [toString n ++ unit]

/-- One part of a written span whose unit has a plural. -/
def pluralPart (n : Nat) (unit : String) : List String :=
  part n (if n = 1 then unit else unit ++ "s")

/-- The parts of a written span, from the largest unit to the smallest. -/
def parts (s : Span) : List String :=
  let inYear := s.seconds % 31557600
  let inMonth := inYear % 2630016
  let inDay := inMonth % 86400
  pluralPart (s.seconds / 31557600) "year" ++
  pluralPart (inYear / 2630016) "month" ++
  pluralPart (inMonth / 86400) "day" ++
  part (inDay / 3600) "h" ++
  part (inDay % 3600 / 60) "m" ++
  part (inDay % 60) "s" ++
  part (s.subsecond / 1000000) "ms" ++
  part (s.subsecond / 1000 % 1000) "us" ++
  part (s.subsecond % 1000) "ns"

/-- The written form of a span. -/
def text (s : Span) : String :=
  if s.nanos = 0 then "0s" else " ".intercalate s.parts

end Span

/-- How spans are written and read. -/
structure SpanFormat where
  write : Span → String
  read? : String → Option Span

/-- The usual format. -/
def SpanFormat.standard : SpanFormat := ⟨Span.text, Span.ofText?⟩

end Telemetry
