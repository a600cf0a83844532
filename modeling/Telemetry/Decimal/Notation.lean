import Telemetry.Decimal.Shortest

/-!
# Written numbers

How a floating-point number is written: its shortest decimal, positionally or with an exponent.
What differs from one place of use to another is collected in a `Style`; each place has one style,
defined where the output is written.

## Main definitions

* `Style`: the decisions of one written form.
* `Style.write`: the text of a number.
* `plain`: the style without exponents, which is that of protocol lines.
-/

namespace Telemetry.Decimal

/-- The decisions of one written form of numbers. -/
structure Style where
  /-- Which of two equally near shortest decimals is written. -/
  tie : Tie
  /-- The powers of ten of the leading digit that are written without an exponent; all if absent. -/
  positional : Option (Int × Int)
  /-- Whether a whole number ends in a point and a zero. -/
  pointZero : Bool
  /-- Whether a positive exponent has a sign. -/
  exponentPlus : Bool

/-- Digits with the point after `point` of them; zeros are added on either side as needed. -/
def placePoint (pointZero : Bool) (digits : List Char) (point : Int) : List Char :=
  if point ≤ 0 then
    ['0', '.'] ++ List.replicate (-point).toNat '0' ++ digits
  else if digits.length ≤ point.toNat then
    digits ++ List.replicate (point.toNat - digits.length) '0' ++
      (if pointZero then ['.', '0'] else [])
  else
    digits.take point.toNat ++ ['.'] ++ digits.drop point.toNat

/-- Digits with the point after the first of them, followed by the exponent. -/
def withExponent (plus : Bool) (digits : List Char) (exponent : Int) : List Char :=
  let sign := if exponent < 0 then ['-'] else if plus then ['+'] else []
  let fraction := match digits.drop 1 with
    | [] => []
    | rest => '.' :: rest
  digits.take 1 ++ fraction ++ ['e'] ++ sign ++ Nat.toDigits 10 exponent.natAbs

namespace Style

/-- The text of a positive decimal. -/
def writeDecimal (style : Style) (d : Decimal) : List Char :=
  let digits := Nat.toDigits 10 d.coefficient
  let point := (digits.length : Int) + d.exponent
  match style.positional with
  | none => placePoint style.pointZero digits point
  | some (least, most) =>
    if least ≤ point - 1 ∧ point - 1 ≤ most then placePoint style.pointZero digits point
    else withExponent style.exponentPlus digits (point - 1)

/-- The characters of a number's text. -/
def characters (style : Style) (x : Float) : List Char :=
  match decode x with
  | .nan => ['N', 'a', 'N']
  | .infinite negative => (if negative then ['-'] else []) ++ ['i', 'n', 'f']
  | .finite negative m q =>
    (if negative then ['-'] else []) ++
      (if m = 0 then placePoint style.pointZero ['0'] 1
       else style.writeDecimal (shortest style.tie m q))

/-- The text of a number. -/
def write (style : Style) (x : Float) : String := String.ofList (style.characters x)

end Style

/-- Numbers of protocol lines have no exponent and no superfluous point, and a tie goes up. -/
def plain : Style := ⟨.up, none, false, false⟩

end Telemetry.Decimal
