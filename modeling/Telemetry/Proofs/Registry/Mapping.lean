import Telemetry.Proofs.Registry.Course
import Telemetry.Proofs.TextMap

/-!
# What filters make of tags

Most filters that change tags look at one key at a time: what an id has under a key afterwards is
settled by what it had under that key before. So a chain of such filters does to the value of a key
what its filters do to it, one after another.

Renaming a tag involves two keys. Where an id has both of them, two values meet under the new key, and
the one whose key was the later one in the order of keys stays.

## Main definitions

- `Filter.Keywise` — a filter that looks at one key at a time
- `Filter.revalue` — what such a filter does to the value of a key

## Main statements

- `mapAll_keywise` — the tags that a chain of such filters leaves
- `Filter.map_renameTag` — the tags that are left after one was renamed
- `Filter.renamed_value_lost` — a tag whose value is lost when it is renamed
-/

namespace Telemetry

namespace Filter

/-- The filters of the library change nothing but tags. -/
theorem map_eq_replaceTags {f : Filter} (hf : ¬ f.IsOwn) (id : Id) :
    f.map id = id.replaceTags (f.map id).tags := by
  cases f with
  | renameTag namePrefix fromKey toKey =>
    simp only [map]
    split <;> rfl
  | replaceTagValues replaced replace exceptions =>
    simp only [map]
    split
    · rfl
    · split <;> rfl
  | own outline map accept heard => exact absurd trivial hf
  | _ => rfl

/-! ## One key at a time -/

/-- A filter that looks at one key at a time: it neither renames tags nor is it of the application's
own. -/
def Keywise : Filter → Prop
  | renameTag _ _ _ => False
  | own _ _ _ _ => False
  | _ => True

/-- The value that a filter leaves under a key that had a value, or had none. -/
def revalue : Filter → String → Option String → Option String
  | commonTags tags, key, value => value.or (tags.get? key)
  | ignoreTags keys, key, value => if key ∈ keys then none else value
  | replaceTagValues replaced replace exceptions, key, value =>
    if key = replaced then value.map fun v => if v ∈ exceptions then v else replace v else value
  | _, _, value => value

theorem Keywise.not_isOwn {f : Filter} (hf : f.Keywise) : ¬ f.IsOwn := by
  intro hown
  cases f with
  | own outline map accept heard => exact hf
  | _ => exact hown

theorem get?_map_replaceTagValues (replaced : String) (replace : String → String)
    (exceptions : List String) (id : Id) (key : String) :
    ((replaceTagValues replaced replace exceptions).map id).tags.get? key =
      if key = replaced then
        (id.tags.get? key).map fun v => if v ∈ exceptions then v else replace v
      else id.tags.get? key := by
  cases hvalue : id.tags.get? replaced with
  | none =>
    simp only [map, hvalue]
    by_cases hkey : key = replaced
    · simp [hkey, hvalue]
    · simp [hkey]
  | some value =>
    simp only [map, hvalue, List.contains_iff_mem]
    by_cases hexempt : value ∈ exceptions
    · by_cases hkey : key = replaced
      · simp [hkey, hvalue, hexempt]
      · simp [hkey, hexempt]
    · have hwith : (id.withTag replaced (replace value)).tags.get? key =
          if replaced = key then some (replace value) else id.tags.get? key :=
        TextMap.get?_insert ..
      rw [if_neg hexempt, hwith]
      by_cases hkey : key = replaced
      · simp [hkey, hvalue, hexempt]
      · simp [hkey, Ne.symm hkey]

theorem get?_map {f : Filter} (hf : f.Keywise) (id : Id) (key : String) :
    (f.map id).tags.get? key = f.revalue key (id.tags.get? key) := by
  cases f with
  | commonTags tags => exact TextMap.get?_union tags id.tags key
  | ignoreTags keys =>
    have hfilter := TextMap.get?_filter id.tags (fun key _ => !keys.contains key) key
    refine hfilter.trans ?_
    by_cases hkey : key ∈ keys
    · simp [revalue, hkey]
    · cases id.tags.get? key <;> simp [revalue, hkey]
  | replaceTagValues replaced replace exceptions =>
    exact get?_map_replaceTagValues replaced replace exceptions id key
  | nameStartsWith namePrefix reply => rfl
  | denyUnless condition => rfl
  | maxAllowedMeters n seen => rfl
  | renameTag namePrefix fromKey toKey => exact hf.elim
  | own outline map accept heard => exact hf.elim

/-- What a chain does to an id, one filter after another. -/
theorem exists_tags_of_chain {filters : List Filter} (h : ∀ f ∈ filters, f.Keywise) (id : Id) :
    ∃ tags, filters.foldl (fun id f => f.map id) id = id.replaceTags tags ∧
      ∀ key, tags.get? key =
        filters.foldl (fun value f => f.revalue key value) (id.tags.get? key) := by
  induction filters generalizing id with
  | nil => exact ⟨id.tags, rfl, fun _ => rfl⟩
  | cons f rest ih =>
    obtain ⟨hf, hrest⟩ := List.forall_mem_cons.1 h
    obtain ⟨tags, hchanged, hvalues⟩ := ih hrest (f.map id)
    refine ⟨tags, ?_, fun key => ?_⟩
    · rw [List.foldl_cons, hchanged, map_eq_replaceTags hf.not_isOwn id]
      rfl
    · rw [hvalues, get?_map hf, List.foldl_cons]

/-! ## Renaming -/

/-- In a list whose keys descend, whoever looks for either of two keys finds the later one. -/
theorem find?_either {α : Type} {a b : String} (hlt : a < b) {entries : List (String × α)}
    (h : entries.Pairwise fun x y => y.1 < x.1) :
    (entries.find? fun e => e.1 == a || e.1 == b) =
      (entries.find? fun e => e.1 == b).or (entries.find? fun e => e.1 == a) := by
  induction entries with
  | nil => rfl
  | cons e rest ih =>
    obtain ⟨hhead, hrest⟩ := List.pairwise_cons.1 h
    by_cases hb : e.1 = b
    · simp [hb]
    · by_cases ha : e.1 = a
      · have hpassed : rest.find? (fun e => e.1 == b) = none := by
          rw [List.find?_eq_none]
          intro e' he' heq
          obtain rfl : e'.1 = b := by simpa using heq
          exact absurd (String.lt_trans hlt (ha ▸ hhead e' he')) (String.lt_irrefl _)
        simp [ha, String.ne_of_lt hlt, hpassed]
      · simp [ha, hb, ih hrest]

section Renamed

theorem get?_renamed (fromKey toKey : String) (tags : Tags) (key : String) :
    (renamed fromKey toKey tags).get? key =
      (tags.toList.reverse.find? fun t =>
        (if t.1 = fromKey then toKey else t.1) == key).map (·.2) := by
  have hkey : ((fun e : String × String => e.1 == key) ∘ fun t : String × String =>
      if t.1 = fromKey then (toKey, t.2) else t) =
        fun t => (if t.1 = fromKey then toKey else t.1) == key := by
    funext t
    by_cases h : t.1 = fromKey <;> simp [h]
  have hvalue : (Prod.snd ∘ fun t : String × String =>
      if t.1 = fromKey then (toKey, t.2) else t) = Prod.snd := by
    funext t
    by_cases h : t.1 = fromKey <;> simp [h]
  rw [renamed, TextMap.get?_ofList, TextMap.lastFor, ← List.map_reverse, List.find?_map,
    Option.map_map, hkey, hvalue]

theorem get?_renamed_of_ne {fromKey toKey : String} (tags : Tags) {key : String}
    (hfrom : key ≠ fromKey) (hto : key ≠ toKey) :
    (renamed fromKey toKey tags).get? key = tags.get? key := by
  have hsame : (fun t : String × String => (if t.1 = fromKey then toKey else t.1) == key) =
      fun t => t.1 == key := by
    funext t
    by_cases h : t.1 = fromKey <;> simp [h, hfrom.symm, hto.symm]
  rw [get?_renamed, hsame, ← TextMap.lastFor_toList]
  rfl

variable {fromKey toKey : String} (hne : fromKey ≠ toKey) (tags : Tags)

include hne

theorem get?_renamed_old : (renamed fromKey toKey tags).get? fromKey = none := by
  rw [get?_renamed, Option.map_eq_none_iff, List.find?_eq_none]
  intro t _
  by_cases h : t.1 = fromKey <;> simp [h, hne.symm]

theorem get?_renamed_new :
    (renamed fromKey toKey tags).get? toKey =
      if fromKey < toKey then (tags.get? toKey).or (tags.get? fromKey)
      else (tags.get? fromKey).or (tags.get? toKey) := by
  have hdescending : tags.toList.reverse.Pairwise fun x y => y.1 < x.1 :=
    List.pairwise_reverse.2 tags.sorted
  have heither : (fun t : String × String => (if t.1 = fromKey then toKey else t.1) == toKey) =
      fun t => t.1 == fromKey || t.1 == toKey := by
    funext t
    by_cases h : t.1 = fromKey <;> simp [h]
  rw [get?_renamed, heither, ← TextMap.lastFor_toList tags fromKey,
    ← TextMap.lastFor_toList tags toKey]
  by_cases hlt : fromKey < toKey
  · rw [if_pos hlt, find?_either hlt hdescending, Option.map_or]
    rfl
  · have hgt : toKey < fromKey := Decidable.byContradiction fun h =>
      hne (String.le_antisymm (String.not_lt.1 h) (String.not_lt.1 hlt))
    simp only [Bool.or_comm (_ == fromKey)]
    rw [if_neg hlt, find?_either hgt hdescending, Option.map_or]
    rfl

theorem renamed_of_none {tags : Tags} (h : tags.get? fromKey = none) :
    renamed fromKey toKey tags = tags := by
  refine TextMap.ext_get? fun key => ?_
  by_cases hfrom : key = fromKey
  · rw [hfrom, get?_renamed_old hne, h]
  · by_cases hto : key = toKey
    · simp [hto, get?_renamed_new hne, h]
    · exact get?_renamed_of_ne tags hfrom hto

end Renamed

/-- Renaming a tag changes tags only, and of these the two that it is about. An id with another name or
without the tag is left as it is. Otherwise nothing is left under the old key, and its value is now under
the new one, unless there was a value before and the new key is the later one of the two: then that value
stays, and the value of the renamed tag is lost. -/
theorem map_renameTag {fromKey toKey : String} (hne : fromKey ≠ toKey) (namePrefix : String)
    (id : Id) :
    let mapped := (renameTag namePrefix fromKey toKey).map id
    mapped.name = id.name ∧ mapped.kind = id.kind ∧ mapped.baseUnit = id.baseUnit ∧
      mapped.description = id.description ∧
      (∀ key, key ≠ fromKey → key ≠ toKey → mapped.tags.get? key = id.tags.get? key) ∧
      (∀ value, namePrefix.toList <+: id.name.toList → id.tags.get? fromKey = some value →
        mapped.tags.get? fromKey = none ∧
          mapped.tags.get? toKey =
            some (if fromKey < toKey then (id.tags.get? toKey).getD value else value)) ∧
      (¬ namePrefix.toList <+: id.name.toList ∨ id.tags.get? fromKey = none → mapped = id) := by
  intro mapped
  have hmapped : mapped = if namePrefix.toList <+: id.name.toList then
      id.replaceTags (renamed fromKey toKey id.tags) else id := by
    by_cases hprefix : namePrefix.toList <+: id.name.toList
    · simp [mapped, map, hprefix]
    · simp [mapped, map, hprefix]
  by_cases hprefix : namePrefix.toList <+: id.name.toList
  · rw [if_pos hprefix] at hmapped
    rw [hmapped]
    refine ⟨rfl, rfl, rfl, rfl, fun key hfrom hto => get?_renamed_of_ne id.tags hfrom hto,
      fun value _ hold => ⟨get?_renamed_old hne id.tags, ?_⟩, fun h => ?_⟩
    · refine (get?_renamed_new hne id.tags).trans ?_
      rw [hold]
      split <;> cases id.tags.get? toKey <;> rfl
    · have hnone := h.resolve_left (not_not_intro hprefix)
      rw [renamed_of_none hne hnone]
      rfl
  · rw [if_neg hprefix] at hmapped
    rw [hmapped]
    exact ⟨rfl, rfl, rfl, rfl, fun _ _ _ => rfl, fun _ h => absurd h hprefix, fun _ => rfl⟩

/-- An id that has both tags: what was under `uri` takes the place of what was under `path`. -/
theorem map_renameTag_uri :
    let id := (Id.new "http.requests" .counter).withTags [("uri", "/a"), ("path", "/b")]
    let mapped := (renameTag "http" "uri" "path").map id
    mapped.tags.get? "uri" = none ∧ mapped.tags.get? "path" = some "/a" := by
  have hne : "uri" ≠ "path" := by decide
  obtain ⟨-, -, -, -, -, hmoved, -⟩ := map_renameTag hne "http"
    ((Id.new "http.requests" .counter).withTags [("uri", "/a"), ("path", "/b")])
  obtain ⟨hold, hnew⟩ := hmoved "/a" (by decide) (by decide)
  exact ⟨hold, hnew.trans (by decide)⟩

/-- The tag `a` is renamed to `b`, but what is under `b` then is what was there before. The other way
round the value moves. -/
theorem renamed_value_lost :
    let id := (Id.new "jobs" .counter).withTags [("a", "1"), ("b", "2")]
    let value (fromKey toKey : String) := ((renameTag "" fromKey toKey).map id).tags.get? toKey
    id.tags.get? "a" = some "1" ∧ id.tags.get? "b" = some "2" ∧
      value "a" "b" ≠ id.tags.get? "a" ∧ value "b" "a" = id.tags.get? "b" := by
  decide

end Filter

/-- A chain of filters that look at one key at a time changes tags only, and does to the value of a key
what the filters do to it one after another: common tags fill in what is missing, ignored keys lose
their values, and a value that is replaced gives way unless it is exempt. -/
theorem mapAll_keywise {filters : List Filter} (h : ∀ f ∈ filters, f.Keywise) (id : Id) :
    let mapped := mapAll filters id
    mapped.name = id.name ∧ mapped.kind = id.kind ∧ mapped.baseUnit = id.baseUnit ∧
      mapped.description = id.description ∧
      (mapped.tags.toList.map (·.1)).Pairwise (· < ·) ∧
      ∀ key, mapped.tags.get? key =
        filters.foldl (fun value f => f.revalue key value) (id.tags.get? key) := by
  intro mapped
  obtain ⟨tags, hchanged, hvalues⟩ := Filter.exists_tags_of_chain h id
  have hmapped : mapped = id.replaceTags tags := congrArg (·.withKind id.kind) hchanged
  rw [hmapped]
  exact ⟨rfl, rfl, rfl, rfl, List.pairwise_map.2 tags.sorted, hvalues⟩

/-- The region is filled in, the host is dropped, and only the anonymous user keeps a name. -/
theorem mapAll_keywise_users :
    let filters : List Filter := [.commonTags (TextMap.ofList [("region", "eu"), ("host", "h1")]),
      .ignoreTags ["host"], .replaceTagValues "user" (fun _ => "known") ["anonymous"]]
    let mapped := mapAll filters ((Id.new "logins" .counter).withTags [("user", "ann")])
    mapped.name = "logins" ∧ mapped.tags.get? "region" = some "eu" ∧
      mapped.tags.get? "host" = none ∧ mapped.tags.get? "user" = some "known" := by
  intro filters mapped
  have hkeywise : ∀ f ∈ filters, f.Keywise := by simp [filters, Filter.Keywise]
  obtain ⟨hname, -, -, -, -, hvalues⟩ :=
    mapAll_keywise hkeywise ((Id.new "logins" .counter).withTags [("user", "ann")])
  exact ⟨hname, (hvalues "region").trans (by decide), (hvalues "host").trans (by decide),
    (hvalues "user").trans (by decide)⟩

end Telemetry
