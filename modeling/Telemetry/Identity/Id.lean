import Telemetry.Identity.Kind
import Telemetry.Identity.Tags

/-!
# Identities of meters

Name, tags and kind decide whether two meters are the same; they form an `Identity`. An `Id` adds
what is only said about a meter: its base unit and a description.

## Main definitions

* `Identity`: what makes meters the same.
* `Id`: an identity with base unit and description; `Id.toIdentity` forgets these.
* `Id.text`: the identity in one line.
-/

namespace Telemetry

/-- What makes two meters the same: name, tags and kind. -/
structure Identity where
  name : String
  tags : Tags
  kind : Kind
deriving DecidableEq

/-- An identity, and what is said about the meter besides. -/
structure Id extends Identity where
  baseUnit : Option String
  description : Option String
deriving DecidableEq

namespace Id

/-- An identity with a name and a kind and nothing else. -/
def new (name : String) (kind : Kind) : Id := ⟨⟨name, TextMap.empty, kind⟩, none, none⟩

instance : Inhabited Id := ⟨new "" .counter⟩

/-- Two ids that name the same meter. -/
def Same (a b : Id) : Prop := a.toIdentity = b.toIdentity

instance (a b : Id) : Decidable (Same a b) := inferInstanceAs (Decidable (_ = _))

/-- The same id under another name. -/
def withName (id : Id) (name : String) : Id := { id with name := name }

/-- The same id as another kind of meter. -/
def withKind (id : Id) (kind : Kind) : Id := { id with kind := kind }

/-- The same id with other tags in place of its own. -/
def replaceTags (id : Id) (tags : Tags) : Id := { id with tags := tags }

/-- The same id with more tags, which win over its own. -/
def withTags (id : Id) (tags : List (String × String)) : Id :=
  { id with tags := id.tags.insertAll tags }

/-- The same id with one more tag. -/
def withTag (id : Id) (key value : String) : Id := id.withTags [(key, value)]

/-- The same id with a base unit. -/
def withBaseUnit (id : Id) (unit : String) : Id := { id with baseUnit := some unit }

/-- The same id with a description. -/
def withDescription (id : Id) (text : String) : Id := { id with description := some text }

/-- The name, and behind it the tags in braces if there are any. -/
def text (id : Id) : String :=
  if id.tags.isEmpty then id.name else id.name ++ "\x7b" ++ Tags.text id.tags ++ "\x7d"

/-- The outline of an id. -/
def outline (id : Id) : String :=
  Outline.record "Id"
    [("name", Outline.text id.name), ("tags", Tags.outline id.tags), ("kind", id.kind.outline),
     ("base_unit", Outline.optional (id.baseUnit.map Outline.text)),
     ("description", Outline.optional (id.description.map Outline.text))]

end Id

end Telemetry
