import Telemetry.Error
import Telemetry.Text.Blank
import Telemetry.Time.SpanText

/-!
# Settings

A configuration is written as a list of named settings, each a truth value, a natural number, a
text, the name of a choice spelled out with its empty contents, or something that no setting of this
library can use. Reading a configuration takes the default for a setting that is absent, refuses one
of the wrong type, and ignores those it does not know, so the settings of one configuration may
stand among those of another. How a setting is found and how a span of time is written is up to the
format of the settings.

## Main definitions

* `Setting`, `Settings`: values, and values under names.
* `SettingsFormat`: how settings are found and spans written, usually `SettingsFormat.standard`.
* `Settings.read`: one setting, with its default.
* `requirePositive`, `requireText`: the two conditions that settings commonly have to meet.
-/

namespace Telemetry

/-- The value of a setting. -/
inductive Setting
  | flag (value : Bool)
  | number (value : Nat)
  | text (value : String)
  /-- The name of a choice, above contents that are empty. -/
  | choice (name : String)
  | unusable
deriving DecidableEq, Repr

namespace Setting

/-- A truth value. -/
def flag? : Setting → Option Bool
  | flag value => some value
  | _ => none

/-- A number below a bound. -/
def numberBelow? (bound : Nat) : Setting → Option Nat
  | number value => if value < bound then some value else none
  | _ => none

/-- A number that fits a 64-bit word. -/
def size? : Setting → Option Nat := numberBelow? UInt64.size

/-- A text. -/
def text? : Setting → Option String
  | text value => some value
  | _ => none

/-- The name of a choice, as a text or spelled out. -/
def choice? : Setting → Option String
  | text value => some value
  | choice name => some name
  | _ => none

end Setting

/-- Settings under their names. -/
abbrev Settings := List (String × Setting)

/-- The format in which settings are kept. -/
structure SettingsFormat where
  /-- The setting under a name. -/
  find? : Settings → String → Option Setting
  spans : SpanFormat

/-- The first setting under a name is found, and spans are written in the usual way. -/
def SettingsFormat.standard : SettingsFormat :=
  ⟨fun settings key => settings.lookup key, .standard⟩

/-- The setting under a name in the form that is needed, or the default if it is absent. There is
none if it is there in another form. -/
def Settings.read {α : Type} (settings : Settings) (format : SettingsFormat) (key : String)
    (default : α) (form : Setting → Option α) : Option α :=
  match format.find? settings key with
  | none => some default
  | some value => form value

/-- Refuses a number that is zero. -/
def requirePositive (key : String) (n : Nat) : Except Error Unit :=
  if n = 0 then .error (.invalid key "must be greater than zero") else .ok ()

/-- Refuses a text that is blank. -/
def requireText (key text : String) : Except Error Unit :=
  if Text.blank text then .error (.missing key) else .ok ()

end Telemetry
