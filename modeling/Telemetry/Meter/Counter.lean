/-!
# Counters

A counter adds up the amounts it accepts; taking it starts the sum again. An amount is accepted if
it is finite and not negative.
-/

namespace Telemetry

/-- What was counted since the counter was last taken. -/
structure Counter where
  count : Float

namespace Counter

/-- A counter that has counted nothing. -/
def start : Counter := ⟨0⟩

/-- Whether an amount is counted at all. -/
def accepts (amount : Float) : Bool := amount.isFinite && decide (0 ≤ amount)

/-- Counts an amount. -/
def increment (c : Counter) (amount : Float) : Counter :=
  if accepts amount then ⟨c.count + amount⟩ else c

/-- What was counted, and the counter started again. -/
def take (c : Counter) : Float × Counter := (c.count, start)

end Counter

end Telemetry
