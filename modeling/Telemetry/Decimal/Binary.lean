/-!
# Binary floating-point numbers

A 64-bit floating-point number is not a number, infinite, or an integer times a power of two. The
exact conversions of this library (decimal text, spans of time) read a number through `decode` and
then work in integers.

## Main definitions

* `decode`: sign, mantissa and exponent of a number.
* `readsBack`: the reals that round to a number, as an interval in quarters of its last place.
* `roundHalfEven`: a quotient rounded to the nearest integer, a half to the even one.
-/

namespace Telemetry.Decimal

/-- What a floating-point number stands for. A finite one is `± mantissa * 2 ^ exponent`. -/
inductive Binary
  | nan
  | infinite (negative : Bool)
  | finite (negative : Bool) (mantissa : Nat) (exponent : Int)
deriving DecidableEq, Repr

/-- The least mantissa of a number that is not subnormal: the bit in front of the 52 bits that are
stored. -/
def leadingBit : Nat := 0x10000000000000

/-- A power of two. -/
def twoTo (n : Nat) : Nat := Nat.pow 2 n

/-- Reads sign, mantissa and exponent off the bits. -/
def decode (x : Float) : Binary :=
  let bits : Nat := x.toBits.toNat
  let negative := bits / 0x8000000000000000 == 1
  let biased : Nat := bits / leadingBit % 2048
  let fraction : Nat := bits % leadingBit
  if biased = 2047 then
    if fraction = 0 then .infinite negative else .nan
  else if biased = 0 then .finite negative fraction (-1074)
  else .finite negative (fraction + leadingBit) ((biased : Int) - 1075)

/-- The lower end of the interval of reals that round to `m * 2 ^ q`, in units of
`2 ^ (q - 2)`. Below a power of two the numbers lie twice as dense. -/
def lowerEnd (m : Nat) (q : Int) : Nat :=
  if m = leadingBit ∧ q ≠ -1074 then 4 * m - 1 else 4 * m - 2

/-- The upper end of the interval of reals that round to `m * 2 ^ q`, in units of
`2 ^ (q - 2)`. -/
def upperEnd (m : Nat) : Nat := 4 * m + 2

/-- Whether the number `a / b`, counted in units of `2 ^ (q - 2)`, rounds to `m * 2 ^ q`. Both
ends of the interval belong to it exactly when the mantissa is even. -/
def readsBack (m : Nat) (q : Int) (a b : Nat) : Bool :=
  if m % 2 = 0 then lowerEnd m q * b ≤ a && a ≤ upperEnd m * b
  else lowerEnd m q * b < a && a < upperEnd m * b

/-- The quotient `n / d` rounded to the nearest integer, a half to the even one. -/
def roundHalfEven (n d : Nat) : Nat :=
  let low := n / d
  let rest := n % d
  if 2 * rest < d then low
  else if 2 * rest > d then low + 1
  else if low % 2 = 0 then low else low + 1

end Telemetry.Decimal
