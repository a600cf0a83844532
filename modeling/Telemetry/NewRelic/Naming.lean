import Telemetry.Naming.Convention

/-!
# Names of New Relic events

New Relic expects names in camel case. It takes letters from a to z, digits, underscores and colons;
every other character becomes an underscore.
-/

namespace Telemetry.NewRelic

/-- The character, or an underscore if it may not stand in a name. -/
def nameChar (c : Char) : Char := if c.isAlphanum ∨ c = '_' ∨ c = ':' then c else '_'

/-- A name in camel case with the characters that New Relic takes. -/
def eventName (name : List Char) : List Char := (camel name).map nameChar

/-- The convention that New Relic expects. -/
def convention : Convention := Convention.ofCharacters "NewRelicNamingConvention" eventName

end Telemetry.NewRelic
