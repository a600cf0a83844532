import Telemetry.Registry.Basic

/-!
# Searching a registry

A search asks for the registered meters with a name, and narrows them down by tags they have to
have, with a value or with any.
-/

namespace Telemetry

/-- What the meters that are looked for have in common. -/
structure Search where
  name : String
  tags : List (String × String)
  keys : List String

namespace Search

/-- Whether an id is one that is looked for. -/
def accepts (s : Search) (id : Id) : Bool :=
  id.name == s.name
    && s.tags.all (fun t => id.tags.get? t.1 == some t.2)
    && s.keys.all (fun key => id.tags.contains key)

variable {World : Type}

/-- The meters that are found. -/
def meters (s : Search) (r : Registry World) : List (Meter World) :=
  r.meters.filter fun m => s.accepts m.id

/-- The meters of one form that are found. -/
def metersOf (s : Search) (r : Registry World) (form : Kind) : List (Meter World) :=
  (s.meters r).filter fun m => m.form == form

end Search

end Telemetry
