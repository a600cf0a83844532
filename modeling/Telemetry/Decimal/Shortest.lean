import Telemetry.Decimal.Binary

/-!
# Shortest decimals

The decimal with the fewest digits that reads back as a given floating-point number; of several,
the one nearest to the number. A decimal `c * 10 ^ e` with few digits lies on a coarse grid, so the
search walks from coarse grids to fine ones and stops at the first grid that has a point among the
reals that round to the number. Only the two grid points next to the number have to be looked at.
All comparisons are made in natural numbers, after both sides have been multiplied by the powers of
two and ten that occur with a negative exponent.

## Main definitions

* `Decimal`: a coefficient and a power of ten.
* `Decimal.onGrid`: the point of one grid that is taken, if any.
* `shortest`: the search over all grids.
-/

namespace Telemetry

/-- The number `coefficient * 10 ^ exponent`. -/
structure Decimal where
  coefficient : Nat
  exponent : Int
deriving DecidableEq, Repr

namespace Decimal

/-- Which neighbour is taken when a number lies exactly in the middle of two decimals. -/
inductive Tie
  | up
  | even
deriving DecidableEq, Repr

/-- What a step of the grid `10 ^ e` is worth in units of `2 ^ (q - 2)`, as a fraction. -/
def gridStep (q e : Int) : Nat × Nat :=
  (Nat.pow 10 e.toNat * twoTo (2 - q).toNat, Nat.pow 10 (-e).toNat * twoTo (q - 2).toNat)

/-- The point on the grid `10 ^ e` that is taken for `m * 2 ^ q`: a neighbour of the number that
reads back, the nearer one if both do. -/
def onGrid (tie : Tie) (m : Nat) (q e : Int) : Option Nat :=
  let (step, unit) := gridStep q e
  let low := 4 * m * unit / step
  match readsBack m q (low * step) unit, readsBack m q ((low + 1) * step) unit with
  | false, false => none
  | true, false => some low
  | false, true => some (low + 1)
  | true, true =>
    let middle := (2 * low + 1) * step
    let value := 2 * (4 * m * unit)
    if value < middle then some low
    else if middle < value then some (low + 1)
    else match tie with
      | .up => some (low + 1)
      | .even => some (if low % 2 = 0 then low else low + 1)

/-- Tries the grids `10 ^ e`, `10 ^ (e - 1)`, … and stops at the first with a point. -/
def firstOnGrid (tie : Tie) (m : Nat) (q : Int) : Nat → Int → Option Decimal
  | 0, _ => none
  | fuel + 1, e =>
    match onGrid tie m q e with
    | some c => some ⟨c, e⟩
    | none => firstOnGrid tie m q fuel (e - 1)

/-- A power of ten above `m * 2 ^ q`: where the search starts. The factor is a little more than
the logarithm of two. -/
def coarsest (m : Nat) (q : Int) : Int :=
  ((m.log2 : Int) + 1 + q) * 30103 / 100000 + 1

/-- The shortest decimal for `m * 2 ^ q`. Twenty grids are always enough, since seventeen digits
tell any two numbers apart. -/
def shortest (tie : Tie) (m : Nat) (q : Int) : Decimal :=
  (firstOnGrid tie m q 20 (coarsest m q)).getD ⟨0, 0⟩

end Decimal

end Telemetry
