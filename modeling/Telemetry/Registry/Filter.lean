import Telemetry.Identity.Id

/-!
# Filters

A filter has a say in every registration: it may change the id that is asked for, and it may veto
the registration or settle it. Most filters only look at the id. Two kinds remember: the cap on the
number of meters keeps the identities it has let through, and a filter of the application's own may
depend on every question it was asked and every removal it was told of.

## Main definitions

* `Reply`: what a filter says about a registration.
* `Filter`: the filters there are, and a form for any other.
* `Filter.map`, `Filter.accept`, `Filter.forget`: changing ids, deciding, learning of a removal.
* `mapAll`, `verdict`: a whole chain of filters.
-/

namespace Telemetry

/-- What a filter says about a registration. -/
inductive Reply
  | accept
  | deny
  | neutral
deriving DecidableEq, Repr

/-- The name of a reply. -/
def Reply.name : Reply → String
  | .accept => "accept"
  | .deny => "deny"
  | .neutral => "neutral"

/-- The name of a reply as outlines show it. -/
def Reply.outline : Reply → String
  | .accept => "Accept"
  | .deny => "Deny"
  | .neutral => "Neutral"

/-- What a filter that remembers has been told: a registration it decided on, or a removal. -/
inductive Heard
  | asked (id : Id)
  | removed (id : Id)
deriving DecidableEq

/-- A filter of a registry. -/
inductive Filter
  /-- Adds tags; those of the id win. -/
  | commonTags (tags : Tags)
  /-- Drops the tags with certain keys. -/
  | ignoreTags (keys : List String)
  /-- Moves a tag to another key, for ids whose name starts in a certain way. -/
  | renameTag (namePrefix fromKey toKey : String)
  /-- Replaces the value of a tag, some values excepted. -/
  | replaceTagValues (key : String) (replace : String → String) (exceptions : List String)
  /-- Settles the registration of ids whose name starts in a certain way. -/
  | nameStartsWith (namePrefix : String) (reply : Reply)
  /-- Denies the ids that do not satisfy a condition. -/
  | denyUnless (condition : Id → Bool)
  /-- Denies new identities once so many have been let through and not been removed. -/
  | maxAllowedMeters (max : Nat) (seen : List Identity)
  /-- A filter of the application's own, and what it has been told so far, latest first. -/
  | own (outline : String) (map : Id → Id) (accept : List Heard → Id → Reply)
      (heard : List Heard)

namespace Filter

/-- A cap that has let nothing through. -/
def cap (max : Nat) : Filter := maxAllowedMeters max []

/-- The tags of an id with one key replaced by another. Where both were there, the one that comes
later in the order of the old keys wins. -/
def renamed (fromKey toKey : String) (tags : Tags) : Tags :=
  TextMap.ofList (tags.toList.map fun t => if t.1 = fromKey then (toKey, t.2) else t)

/-- The id that a filter makes of another. -/
def map : Filter → Id → Id
  | commonTags tags, id => id.replaceTags (tags.union id.tags)
  | ignoreTags keys, id => id.replaceTags (id.tags.filter fun key _ => !keys.contains key)
  | renameTag namePrefix fromKey toKey, id =>
    if namePrefix.toList.isPrefixOf id.name.toList then
      id.replaceTags (renamed fromKey toKey id.tags)
    else id
  | replaceTagValues key replace exceptions, id =>
    match id.tags.get? key with
    | none => id
    | some value => if exceptions.contains value then id else id.withTag key (replace value)
  | own _ map _ _, id => map id
  | _, id => id

/-- What a filter says about registering an id, and the filter after having said it. -/
def accept (f : Filter) (id : Id) : Reply × Filter :=
  match f with
  | nameStartsWith namePrefix reply =>
    (if namePrefix.toList.isPrefixOf id.name.toList then reply else .neutral, f)
  | denyUnless condition => (if condition id then .neutral else .deny, f)
  | maxAllowedMeters max seen =>
    if seen.contains id.toIdentity then (.neutral, f)
    else if max ≤ seen.length then (.deny, f)
    else (.neutral, maxAllowedMeters max (seen ++ [id.toIdentity]))
  | own outline map accept heard =>
    (accept heard id, own outline map accept (.asked id :: heard))
  | _ => (.neutral, f)

/-- A filter after a meter has been removed. -/
def forget (f : Filter) (id : Id) : Filter :=
  match f with
  | maxAllowedMeters max seen => maxAllowedMeters max (seen.filter (· != id.toIdentity))
  | own outline map accept heard => own outline map accept (.removed id :: heard)
  | _ => f

/-- The outline of a filter. What a filter remembers does not show. -/
def outline : Filter → String
  | commonTags tags => Outline.record "CommonTags" [("tags", Tags.outline tags)]
  | ignoreTags keys =>
    Outline.record "IgnoreTags" [("keys", Outline.list (keys.map Outline.text))]
  | renameTag namePrefix fromKey toKey =>
    Outline.record "RenameTag"
      [("name_prefix", Outline.text namePrefix), ("from_key", Outline.text fromKey),
       ("to_key", Outline.text toKey)]
  | replaceTagValues key _ exceptions =>
    Outline.openRecord "ReplaceTagValues"
      [("key", Outline.text key), ("exceptions", Outline.list (exceptions.map Outline.text))]
  | nameStartsWith namePrefix reply =>
    Outline.record "NameStartsWith"
      [("prefix", Outline.text namePrefix), ("reply", reply.outline)]
  | denyUnless _ => Outline.openRecord "DenyUnless" []
  | maxAllowedMeters max _ => Outline.openRecord "MaxAllowedMeters" [("max", toString max)]
  | own outline _ _ _ => outline

end Filter

/-- The id that a chain of filters makes of another, each filter changing what the one before it
has made. The kind that was asked for stays. -/
def mapAll (filters : List Filter) (id : Id) : Id :=
  (filters.foldl (fun id f => f.map id) id).withKind id.kind

/-- The first reply of a chain of filters that is not neutral, and the filters after having been
asked. The filters behind that reply are not asked. -/
def verdict (filters : List Filter) (id : Id) : Reply × List Filter :=
  match filters with
  | [] => (.neutral, [])
  | f :: rest =>
    match f.accept id with
    | (.neutral, f') =>
      let (reply, rest') := verdict rest id
      (reply, f' :: rest')
    | (reply, f') => (reply, f' :: rest)

end Telemetry
