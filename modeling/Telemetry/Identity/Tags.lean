import Telemetry.Text.Outline
import Telemetry.TextMap

/-!
# Tags

Tags are the dimensions of a meter: a map from keys to values. The order in which they were given
never matters, and of two values for a key the later one wins.
-/

namespace Telemetry

/-- Keys with their values, in ascending order of the keys. -/
abbrev Tags := TextMap String

namespace Tags

/-- Tags as they stand in the text of an identity: `k=v`, separated by commas. -/
def text (tags : Tags) : String :=
  ",".intercalate (tags.toList.map fun t => t.1 ++ "=" ++ t.2)

/-- The outline of one tag. -/
def outlineTag (tag : String × String) : String :=
  Outline.record "Tag" [("key", Outline.text tag.1), ("value", Outline.text tag.2)]

/-- The outline of tags. -/
def outline (tags : Tags) : String :=
  Outline.record "Tags" [("tags", Outline.list (tags.toList.map outlineTag))]

end Tags

end Telemetry
