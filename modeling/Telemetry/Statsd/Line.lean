import Telemetry.Decimal.Notation
import Telemetry.Naming.Cache
import Telemetry.Statsd.Flavor

/-!
# StatsD lines

A line is a name, an amount, a type and tags. Name and tags depend on the identity and the
convention alone, so they are written once and kept.

## Main definitions

* `Fragments`: name and tags of a meter; `rules` writes them.
* `tagBlock`, `compose`: the parts of a line and the line.
* `line`, `bucketLine`: one line for a statistic or a bucket, with the cache after it.
-/

namespace Telemetry.Statsd

/-- The sanitized name of a meter, and its tags if it has any. -/
structure Fragments where
  name : List Char
  tags : Option (List Char)
deriving DecidableEq

/-- The name of a meter in a flavor and a convention. -/
def writeName (flavor : FlavorRules) (id : Id) (convention : Convention) : List Char :=
  if flavor.sanitizesFirst then
    (convention.name (String.ofList (flavor.sanitizeName id.name.toList)) id.kind
      id.baseUnit).toList
  else flavor.sanitizeName (id.conventionName convention).toList

/-- The tags of a meter in a flavor and a convention. -/
def writeTags (flavor : FlavorRules) (id : Id) (convention : Convention) :
    List (List Char) :=
  (id.conventionTags convention).map fun t => flavor.formatTag t.1.toList t.2.toList

/-- The tag of a statistic. -/
def statisticTag (flavor : FlavorRules) (statistic : Statistic) : List Char :=
  "statistic".toList ++ flavor.separator ++ statistic.name.toList

/-- The tag of a bucket's upper bound. -/
def boundTag (flavor : FlavorRules) (bound : Float) : List Char :=
  flavor.formatTag "le".toList (Decimal.plain.characters bound)

/-- The tags of a line behind the preamble: first the statistic, then those of the meter, then any
other. Nothing at all if there are no tags. -/
def tagBlock (flavor : FlavorRules) (statistic : Option Statistic) (tags extra : Option (List Char)) :
    List Char :=
  match (statistic.map (statisticTag flavor)).toList ++ tags.toList ++ extra.toList with
  | [] => []
  | parts => flavor.preamble ++ Text.join [','] parts

/-- A line of its parts. -/
def compose (flavor : FlavorRules) (name tags : List Char) (amount : Float) (type : Char) :
    List Char :=
  let measured := [':'] ++ Decimal.plain.characters amount ++ ['|', type]
  match flavor.layout with
  | .tagsAfterValue => name ++ measured ++ tags
  | .tagsBeforeValue => name ++ tags ++ measured

/-- How the lines of a flavor are written. -/
def renderRules (flavor : FlavorRules) : RenderRules Fragments where
  render id convention :=
    let tags := writeTags flavor id convention
    { name := writeName flavor id convention
      tags := if tags.isEmpty then none else some (Text.join [','] tags) }
  renderStatistic fragments statistic :=
    String.ofList (tagBlock flavor statistic fragments.tags none)

/-- A line for an amount, with a statistic tag if one is given, and the cache after it. -/
def line (flavor : FlavorRules) (cache : NamingCache Fragments) (installed : Installed)
    (amount : Float) (statistic : Option Statistic) (type : Char) :
    String × NamingCache Fragments :=
  let (rendered, cache, _) := cache.render (renderRules flavor) installed
  let (tags, cache, _) := cache.text (renderRules flavor) installed statistic
  (String.ofList (compose flavor rendered.fragments.name tags.toList amount type), cache)

/-- A line for a bucket, with its upper bound as a tag, and the cache after it. -/
def bucketLine (flavor : FlavorRules) (cache : NamingCache Fragments) (installed : Installed)
    (amount bound : Float) (type : Char) : String × NamingCache Fragments :=
  let (rendered, cache, _) := cache.render (renderRules flavor) installed
  let tags := tagBlock flavor none rendered.fragments.tags (some (boundTag flavor bound))
  (String.ofList (compose flavor rendered.fragments.name tags amount type), cache)

end Telemetry.Statsd
