import Telemetry.Identity.Id
import Telemetry.Proofs.Text.Bytes
import Telemetry.Proofs.TextMap

/-!
# Tags that were put together

Tags are put together from pairs of a key and a value, a few at a time. What becomes of the pairs does
not depend on how they were grouped: the last value for a key counts, and the keys ascend in the order
of their bytes. So a value is found by halving the list of tags again and again.

## Main definitions

- `TextMap.search?` — looks for a key by halving
- `Tags.Origin` — how tags were put together

## Main statements

- `TextMap.search?_eq_get?` — halving finds what is there
- `Tags.tags_canonical` — what tags hold, when they are equal, and how they combine
-/

namespace Telemetry

namespace TextMap

variable {α : Type}

/-! ## Halving -/

/-- Of `size` entries from `base` on, the only one that may have the key: the half that cannot have it
is left out until a single entry is left. -/
def narrow (entries : List (String × α)) (key : String) (base size : Nat) : Nat :=
  if size ≤ 1 then base
  else
    let middle := base + size / 2
    let above := entries[middle]?.any fun e => decide (Text.bytes key < Text.bytes e.1)
    narrow entries key (if above then base else middle) (size - size / 2)
termination_by size

/-- The value under a key, found by halving. -/
def search? (m : TextMap α) (key : String) : Option α :=
  (m.toList[narrow m.toList key 0 m.size]?.filter fun e => e.1 == key).map (·.2)

/-- An entry with the key is never left out. -/
theorem narrow_eq {entries : List (String × α)} (hsorted : entries.Pairwise fun a b => a.1 < b.1)
    {i : Nat} (hi : i < entries.length) {base size : Nat} (hbase : base ≤ i)
    (hsize : i < base + size) (hfits : base + size ≤ entries.length) :
    narrow entries entries[i].1 base size = i := by
  fun_induction narrow entries entries[i].1 base size with
  | case1 base size hone => omega
  | case2 base size hmany middle above ih =>
    have hmiddle : middle < entries.length := by omega
    have habove : above = true ↔ entries[i].1 < entries[middle].1 := by
      simp [above, List.getElem?_eq_getElem hmiddle, Text.bytes_lt_iff]
    have horder : above = true ↔ i < middle := by
      refine habove.trans ⟨fun hlt => ?_, fun hlt => ?_⟩
      · rcases Nat.lt_trichotomy i middle with h | h | h
        · exact h
        · simp only [h] at hlt
          exact absurd hlt (String.lt_irrefl _)
        · have hgt := List.pairwise_iff_getElem.1 hsorted middle i hmiddle hi h
          exact absurd (String.lt_trans hlt hgt) (String.lt_irrefl _)
      · exact List.pairwise_iff_getElem.1 hsorted i middle hi hmiddle hlt
    by_cases h : above = true
    · have hlt := horder.1 h
      rw [dif_pos h] at ih
      rw [if_pos h]
      exact ih hbase (by omega) (by omega)
    · have hge := mt horder.2 h
      rw [dif_neg h] at ih
      rw [if_neg h]
      exact ih (by omega) (by omega) (by omega)

/-- Halving finds what is there. -/
theorem search?_eq_get? (m : TextMap α) (key : String) : m.search? key = m.get? key := by
  refine Option.ext fun value => ?_
  rw [get?_eq_some_iff]
  constructor
  · intro h
    obtain ⟨⟨k, v⟩, he, rfl⟩ := Option.map_eq_some_iff.1 h
    obtain ⟨he, hkey⟩ := Option.filter_eq_some_iff.1 he
    obtain rfl : k = key := beq_iff_eq.1 hkey
    exact List.mem_of_getElem? he
  · intro h
    obtain ⟨i, hi, he⟩ := List.getElem_of_mem h
    have hplace : narrow m.toList m.toList[i].1 0 m.size = i := by
      refine narrow_eq m.sorted hi (Nat.zero_le i) ?_ ?_
      · rwa [Nat.zero_add]
      · exact Nat.le_of_eq (Nat.zero_add _)
    rw [he] at hplace
    rw [search?, hplace, List.getElem?_eq_getElem hi, he]
    simp

end TextMap

namespace Tags

/-! ## Putting tags together -/

/-- How tags were put together: from pairs, or from tags that there were by adding others or more
pairs to them, perhaps to the tags of an id. -/
inductive Origin
  | of (pairs : List (String × String))
  | and (first second : Origin)
  | andPairs (first : Origin) (pairs : List (String × String))
  | withTag (id : Id) (first : Origin) (key value : String)
  | withTags (id : Id) (first : Origin) (pairs : List (String × String))

namespace Origin

/-- The tags that were put together. -/
def tags : Origin → Tags
  | of pairs => TextMap.ofList pairs
  | and first second => first.tags.union second.tags
  | andPairs first pairs => first.tags.insertAll pairs
  | withTag id first key value => ((id.replaceTags first.tags).withTag key value).tags
  | withTags id first pairs => ((id.replaceTags first.tags).withTags pairs).tags

/-- All pairs, in the order in which they were given. -/
def supplied : Origin → List (String × String)
  | of pairs => pairs
  | and first second => first.supplied ++ second.supplied
  | andPairs first pairs => first.supplied ++ pairs
  | withTag _ first key value => first.supplied ++ [(key, value)]
  | withTags _ first pairs => first.supplied ++ pairs

/-- The last value that was given for a key counts. -/
theorem get?_tags (origin : Origin) (key : String) :
    origin.tags.get? key = TextMap.lastFor origin.supplied key := by
  have hmore (first : Origin) (ih : first.tags.get? key = TextMap.lastFor first.supplied key)
      (pairs : List (String × String)) : (first.tags.insertAll pairs).get? key =
        TextMap.lastFor (first.supplied ++ pairs) key := by
    rw [TextMap.get?_insertAll, ih, TextMap.lastFor_append]
  induction origin with
  | of pairs => exact TextMap.get?_ofList pairs key
  | and first second ihFirst ihSecond =>
    rw [tags, supplied, TextMap.get?_union, ihFirst, ihSecond, TextMap.lastFor_append]
  | andPairs first pairs ih => exact hmore first ih pairs
  | withTag id first key value ih => exact hmore first ih [(key, value)]
  | withTags id first pairs ih => exact hmore first ih pairs

end Origin

/-- Tags are the same, however they were put together: their keys ascend in the order of their bytes,
and halving finds the last value that was given for a key, or none if there was none. Other tags that
are added win over those that were there. Tags are equal exactly if they have the same values, and so
pairs with different keys may be given in any order; and adding tags is associative and idempotent. -/
theorem tags_canonical (origin : Origin) :
    let tags := origin.tags
    (tags.toList.map fun t => Text.bytes t.1).Pairwise (· < ·) ∧
      (∀ key value, tags.search? key = some value ↔ ∃ before after,
        origin.supplied = before ++ (key, value) :: after ∧ key ∉ after.map (·.1)) ∧
      (∀ key, tags.search? key = none ↔ key ∉ origin.supplied.map (·.1)) ∧
      (∀ key, tags.get? key = tags.search? key) ∧
      (∀ other : Origin,
        (∀ key, (tags.union other.tags).get? key = (other.tags.get? key).or (tags.get? key)) ∧
        (tags = other.tags ↔ ∀ key, tags.get? key = other.tags.get? key) ∧
        ((origin.supplied.map (·.1)).Nodup → origin.supplied.Perm other.supplied →
          tags = other.tags) ∧
        ∀ third : Origin,
          (tags.union other.tags).union third.tags = tags.union (other.tags.union third.tags)) ∧
      tags.union tags = tags := by
  intro tags
  have hsearch (key : String) : tags.search? key = TextMap.lastFor origin.supplied key :=
    (TextMap.search?_eq_get? tags key).trans (origin.get?_tags key)
  refine ⟨?_, fun key value => ?_, fun key => ?_, fun key => (TextMap.search?_eq_get? tags key).symm,
    fun other => ⟨TextMap.get?_union tags other.tags, ?_, fun hkeys hperm => ?_, fun third => ?_⟩, ?_⟩
  · exact List.pairwise_map.2 (tags.sorted.imp Text.bytes_lt_iff.2)
  · rw [hsearch, TextMap.lastFor_eq_some_iff]
  · rw [hsearch, TextMap.lastFor_eq_none_iff]
  · exact ⟨fun h key => by rw [h], TextMap.ext_get?⟩
  · have hkeys' : (other.supplied.map (·.1)).Nodup := (hperm.map _).nodup_iff.1 hkeys
    refine TextMap.ext_get? fun key => Option.ext fun value => ?_
    rw [origin.get?_tags, other.get?_tags, TextMap.lastFor_eq_some_iff_mem hkeys,
      TextMap.lastFor_eq_some_iff_mem hkeys', hperm.mem_iff]
  · refine TextMap.ext_get? fun key => ?_
    simp only [TextMap.get?_union, Option.or_assoc]
  · refine TextMap.ext_get? fun key => ?_
    rw [TextMap.get?_union, Option.or_self]

/-- Pairs with different keys that are given one by one, in another order. -/
theorem tags_canonical_regions :
    let pairs := [("region", "eu"), ("host", "a")]
    let origin := Origin.withTag (Id.new "logins" .counter)
      (.andPairs (.of [("host", "b")]) [("region", "eu"), ("host", "b")]) "host" "a"
    let other := Origin.withTags (Id.new "logins" .timer) (.of [("host", "a")]) [("region", "eu")]
    (pairs.map (·.1)).Nodup ∧ pairs.Perm other.supplied ∧ (Origin.of pairs).tags = other.tags ∧
      origin.tags.search? "host" = some "a" ∧ origin.tags.search? "zone" = none := by
  intro pairs origin other
  have hkeys : (pairs.map (·.1)).Nodup := by decide
  have hperm : pairs.Perm other.supplied := by decide
  obtain ⟨-, -, -, -, hothers, -⟩ := tags_canonical (.of pairs)
  obtain ⟨-, hvalues, hnone, -⟩ := tags_canonical origin
  refine ⟨hkeys, hperm, (hothers other).2.2.1 hkeys hperm, ?_, (hnone "zone").2 (by decide)⟩
  exact (hvalues "host" "a").2 ⟨[("host", "b"), ("region", "eu"), ("host", "b")], [], rfl, by decide⟩

end Tags

end Telemetry
