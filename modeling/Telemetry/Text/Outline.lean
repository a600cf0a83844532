import Telemetry.Decimal.Notation
import Telemetry.Text.Quoted

/-!
# Outlines of values

A one-line text that shows how a value is built: records with named fields, variants with their
arguments, lists and optional values. Outlines are meant for people who debug a program, so texts
stand in quotes and a record may say that it has more than it shows.

## Main definitions

* `record`, `openRecord`: named fields, all of them or some of them.
* `variant`, `list`, `optional`: the other ways of building a value.
* `number`: how outlines write a floating-point number.
-/

namespace Telemetry.Outline

/-- The fields of a record, each with its name, separated by commas. -/
def fieldList (fields : List (String × String)) : String :=
  ", ".intercalate (fields.map fun f => f.1 ++ ": " ++ f.2)

/-- A record that shows all its fields. -/
def record (name : String) (fields : List (String × String)) : String :=
  name ++ " \x7b " ++ fieldList fields ++ " \x7d"

/-- A record that shows some of its fields and says so. -/
def openRecord (name : String) (fields : List (String × String)) : String :=
  if fields.isEmpty then name ++ " \x7b .. \x7d"
  else name ++ " \x7b " ++ fieldList fields ++ ", .. \x7d"

/-- A variant with one argument. -/
def variant (name argument : String) : String := name ++ "(" ++ argument ++ ")"

/-- A list of values. -/
def list (items : List String) : String := "[" ++ ", ".intercalate items ++ "]"

/-- A value that may be absent. -/
def optional (item : Option String) : String :=
  match item with
  | none => "None"
  | some text => variant "Some" text

/-- A text in quotes. -/
def text (s : String) : String := Text.quoted s

/-- A truth value. -/
def flag (b : Bool) : String := if b then "true" else "false"

/-- Outlines write numbers with a point, and with an exponent when they are very large or very
small. -/
def number : Decimal.Style := ⟨.up, some (-4, 15), true, false⟩

end Telemetry.Outline
