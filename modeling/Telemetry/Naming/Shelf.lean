import Telemetry.Naming.Cache

/-!
# Caches of many meters

An exporter keeps one naming cache for each identity that it has written. A cache is made for the
id with which the identity was first written and stays until the identity is no longer published.
-/

namespace Telemetry

/-- The naming caches of an exporter, at most one for each identity. -/
abbrev Shelf (Fragments : Type) := List (NamingCache Fragments)

namespace Shelf

variable {Fragments : Type}

/-- The cache of an identity, or a new one for the id. -/
def cacheFor (shelf : Shelf Fragments) (id : Id) : NamingCache Fragments :=
  (shelf.find? fun c => c.id.toIdentity == id.toIdentity).getD (.new id)

/-- The caches with one of them in its new state. -/
def store (shelf : Shelf Fragments) (cache : NamingCache Fragments) : Shelf Fragments :=
  match shelf with
  | [] => [cache]
  | c :: rest =>
    if c.id.toIdentity == cache.id.toIdentity then cache :: rest else c :: store rest cache

/-- The caches of those identities that are still published. -/
def retain (shelf : Shelf Fragments) (live : List Identity) : Shelf Fragments :=
  shelf.filter fun c => live.contains c.id.toIdentity

end Shelf

end Telemetry
