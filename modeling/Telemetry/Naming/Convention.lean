import Telemetry.Identity.Id
import Telemetry.Text.Pieces
import Telemetry.Text.Uppercase

/-!
# Naming conventions

Code names meters with dots; a monitoring service expects a style of its own. A convention turns a
name into that style. The conventions here see a name only as the list of its non-empty segments
between dots, so leading, trailing and doubled dots never matter to them.

## Main definitions

* `Convention`: how names, tag keys and tag values are written.
* `segments`, `joined`, `camel`: the segments of a name, and the ways of writing them.
* `Convention.verbatim`, `dot`, `snakeCase`, `camelCase`, `upperCamelCase`, `slashes`.
* `Installed`: a convention as it was put in place, which another one like it does not equal.
-/

namespace Telemetry

/-- How the names and tags of meters are written. A name may depend on kind and base unit. -/
structure Convention where
  name : String → Kind → Option String → String
  tagKey : String → String
  tagValue : String → String
  outline : String

/-- The non-empty segments of a name between its dots. -/
def segments (name : List Char) : List (List Char) :=
  (Text.cut '.' name).filter fun s => !s.isEmpty

/-- A segment with its first character in upper case. -/
def capitalized : List Char → List Char
  | [] => []
  | c :: rest => Text.uppercase c ++ rest

/-- The segments of a name with a separator between them. -/
def joined (separator : Char) (name : List Char) : List Char :=
  Text.join [separator] (segments name)

/-- The segments of a name without anything between them, each but the first capitalized. -/
def camel (name : List Char) : List Char :=
  match segments name with
  | [] => []
  | first :: rest => first ++ rest.flatMap capitalized

/-- The segments of a name without anything between them, each capitalized. -/
def upperCamel (name : List Char) : List Char := (segments name).flatMap capitalized

namespace Convention

/-- A convention given by how it writes names. A tag key is written as the name of a meter of no
particular kind, and a tag value is left as it is. -/
def ofName (outline : String) (name : String → Kind → Option String → String) : Convention :=
  ⟨name, fun key => name key .other none, id, outline⟩

/-- A convention that writes names by their characters alone. -/
def ofCharacters (outline : String) (write : List Char → List Char) : Convention :=
  ofName outline fun name _ _ => String.ofList (write name.toList)

/-- Names as they are. -/
def verbatim : Convention := ofName "Identity" fun name _ _ => name

/-- Names such as `http.server.requests`. -/
def dot : Convention := ofCharacters "Dot" (joined '.')

/-- Names such as `http_server_requests`. -/
def snakeCase : Convention := ofCharacters "SnakeCase" (joined '_')

/-- Names such as `httpServerRequests`. -/
def camelCase : Convention := ofCharacters "CamelCase" camel

/-- Names such as `HttpServerRequests`. -/
def upperCamelCase : Convention := ofCharacters "UpperCamelCase" upperCamel

/-- Names such as `http/server/requests`. -/
def slashes : Convention := ofCharacters "Slashes" (joined '/')

instance : Inhabited Convention := ⟨verbatim⟩

end Convention

namespace Id

/-- The name of a meter in a convention. -/
def conventionName (id : Id) (convention : Convention) : String :=
  convention.name id.name id.kind id.baseUnit

/-- The tags of a meter in a convention, in the order of their keys before. -/
def conventionTags (id : Id) (convention : Convention) : List (String × String) :=
  id.tags.toList.map fun t => (convention.tagKey t.1, convention.tagValue t.2)

end Id

/-- A convention as it was put in place. Each placement has a number of its own, so putting in
place an equal convention again can be noticed. -/
structure Installed where
  serial : Nat
  convention : Convention

instance : Inhabited Installed := ⟨⟨0, default⟩⟩

end Telemetry
