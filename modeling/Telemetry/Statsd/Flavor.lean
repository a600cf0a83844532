import Telemetry.Naming.Convention
import Telemetry.Text.Alphabetic
import Telemetry.Text.Blank

/-!
# Flavors of StatsD

The servers that understand StatsD lines do not agree on tags. A flavor says where the tags of a
line stand, how they are separated, and which characters of names, keys and values have to be
replaced.

## Main definitions

* `Flavor`: the three flavors, with their names and preferred conventions.
* `FlavorRules`: the decisions of a flavor; `Flavor.rules` has those of each.
* `datadogName`, `telegrafEscape`, `sysdigSanitize`: the replacement of characters.
-/

namespace Telemetry.Statsd

/-- A server's way of writing StatsD lines. -/
inductive Flavor
  | datadog
  | telegraf
  | sysdig
deriving DecidableEq, Repr

namespace Flavor

/-- All flavors. -/
def all : List Flavor := [datadog, telegraf, sysdig]

/-- The name of a flavor. -/
def name : Flavor → String
  | datadog => "datadog"
  | telegraf => "telegraf"
  | sysdig => "sysdig"

/-- The flavor with a name, in which upper and lower case of the letters from a to z do not
differ. -/
def ofName? (name : String) : Option Flavor := all.find? fun f => f.name == name.toLower

/-- What is said about a name that no flavor has. -/
def unsupported (name : String) : String :=
  "unsupported StatsD flavor '" ++ name ++ "', expected one of: datadog, telegraf, sysdig"

/-- The flavor that is used unless another is asked for. -/
def default : Flavor := datadog

/-- The convention in which a flavor's server expects names. -/
def convention : Flavor → Convention
  | datadog => Convention.dot
  | telegraf => Convention.snakeCase
  | sysdig => Convention.dot

end Flavor

/-- Where the tags of a line stand. -/
inductive Layout
  | tagsAfterValue
  | tagsBeforeValue
deriving DecidableEq, Repr

/-- The decisions of a flavor. -/
structure FlavorRules where
  /-- Where the tags stand. -/
  layout : Layout
  /-- What stands between the key and the value of the statistic tag. -/
  separator : List Char
  /-- What stands before the tags. -/
  preamble : List Char
  /-- Whether names are sanitized before the convention is applied, rather than after. -/
  sanitizesFirst : Bool
  /-- A name without the characters that a line must not have. -/
  sanitizeName : List Char → List Char
  /-- A tag of a key and a value. -/
  formatTag : List Char → List Char → List Char

/-- A colon would end the name, so it is replaced; and a name has to start with a letter. -/
def datadogName (name : List Char) : List Char :=
  let clean := name.map fun c => if c = ':' then '_' else c
  match name with
  | [] => ['m', '.']
  | c :: _ => if Text.isAlphabetic c then clean else 'm' :: '.' :: clean

/-- A text with a colon at its end replaced. -/
def replaceLastColon (value : List Char) : List Char :=
  if value.getLast? = some ':' then value.dropLast ++ ['_'] else value

/-- A tag without a value is its key alone. -/
def datadogTag (key value : List Char) : List Char :=
  if value.isEmpty then datadogName key
  else datadogName key ++ [':'] ++ replaceLastColon value

/-- An equals sign can be escaped; commas, colons and blanks have to be replaced. -/
def telegrafChar (c : Char) : List Char :=
  if c = '=' then ['\\', '=']
  else if c = ',' ∨ c = ':' ∨ Text.isBlank c then ['_']
  else [c]

/-- A text as it may stand in a name, a key or a value. -/
def telegrafEscape (s : List Char) : List Char := s.flatMap telegrafChar

/-- A key and its value with an equals sign between them. -/
def telegrafTag (key value : List Char) : List Char :=
  telegrafEscape key ++ ['='] ++ telegrafEscape value

/-- Only letters from a to z, digits, underscores and dots are left alone. -/
def sysdigChar (c : Char) : Char := if c.isAlphanum ∨ c = '_' ∨ c = '.' then c else '_'

/-- A text as it may stand in a name, a key or a value. -/
def sysdigSanitize (s : List Char) : List Char := s.map sysdigChar

/-- A key and its value with an equals sign between them. -/
def sysdigTag (key value : List Char) : List Char :=
  sysdigSanitize key ++ ['='] ++ sysdigSanitize value

/-- The decisions of each flavor. -/
def Flavor.rules : Flavor → FlavorRules
  | .datadog => ⟨.tagsAfterValue, [':'], ['|', '#'], true, datadogName, datadogTag⟩
  | .telegraf => ⟨.tagsBeforeValue, ['='], [','], false, telegrafEscape, telegrafTag⟩
  | .sysdig => ⟨.tagsBeforeValue, ['='], ['#'], false, sysdigSanitize, sysdigTag⟩

end Telemetry.Statsd
