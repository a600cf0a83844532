/-!
# Sets of characters given by ranges

A property of characters is stored as a list of closed intervals of code points. The tables of
this library (`Blank`, `Alphabetic`, `Hidden`) are all read through `inRanges`.
-/

namespace Telemetry.Text

/-- A character belongs to a list of closed intervals when one of them holds its code point. -/
def inRanges (ranges : List (Nat × Nat)) (c : Char) : Bool :=
  ranges.any fun r => r.1 ≤ c.toNat && c.toNat ≤ r.2

end Telemetry.Text
