import Telemetry.Decimal.Notation
import Telemetry.TextMap

/-!
# JSON text

Flat JSON objects, whose values are texts or numbers, and lists of them, written without blanks.
Members come in the order of their names. A text escapes quotes, backslashes and controls only; a
number always shows that it is one with a fraction.

## Main definitions

* `Value`, `Object`: what can be written.
* `Object.text`, `arrayText`: an object, and a list of objects.
-/

namespace Telemetry.Json

/-- The value of a member: a text or a number. -/
inductive Value
  | text (value : String)
  | number (value : Float)

/-- An object: values under names, in ascending order of the names. -/
abbrev Object := TextMap Value

/-- How one character stands in a text. -/
def escapedChar (c : Char) : List Char :=
  if c = '"' then ['\\', '"']
  else if c = '\\' then ['\\', '\\']
  else if c = '\n' then ['\\', 'n']
  else if c = '\r' then ['\\', 'r']
  else if c = '\t' then ['\\', 't']
  else if c = Char.ofNat 8 then ['\\', 'b']
  else if c = Char.ofNat 12 then ['\\', 'f']
  else if c.toNat < 16 then ['\\', 'u', '0', '0', '0'] ++ Nat.toDigits 16 c.toNat
  else if c.toNat < 32 then ['\\', 'u', '0', '0'] ++ Nat.toDigits 16 c.toNat
  else [c]

/-- A text in quotes. -/
def quoted (s : String) : String :=
  String.ofList ('"' :: s.toList.flatMap escapedChar ++ ['"'])

/-- Numbers have a point or an exponent, the exponent for very large and very small ones. -/
def numberStyle : Decimal.Style := ⟨.even, some (-5, 15), true, true⟩

/-- The text of a value. -/
def Value.write : Value → String
  | .text s => quoted s
  | .number x => numberStyle.write x

/-- The text of an object. -/
def Object.write (object : Object) : String :=
  "\x7b" ++ ",".intercalate (object.toList.map fun m => quoted m.1 ++ ":" ++ m.2.write) ++ "\x7d"

/-- The text of a list of objects. -/
def writeArray (objects : List Object) : String :=
  "[" ++ ",".intercalate (objects.map Object.write) ++ "]"

end Telemetry.Json
