import Telemetry.Proofs.Registry.Course
import Telemetry.Proofs.TextMap

/-!
# Removing all meters

A registry can be cleared at once, or its meters can be removed one by one, in any order. Both leave
no meter, and both tell all filters of each meter that was removed, but not in the same order. A cap
on the number of meters does not see the order, as it only forgets identities. A filter of the
application's own may see it.

## Main definitions

- `Filter.told` — a filter that was told of removals
- `Registry.removeAll` — a registry from which identities were removed one by one

## Main statements

- `Registry.nodup_identities_course` — no identity is registered twice
- `Registry.removeAll_eq` — what removals leave
- `Registry.removeAll_clear_course` — they leave what clearing leaves
-/

namespace Telemetry

variable {World : Type}

/-! ## Telling filters of removals -/

namespace Filter

/-- A filter that was told of removals, one after another. -/
def told (f : Filter) (gone : List Id) : Filter := gone.foldl forget f

theorem foldl_notifyRemoved (filters : List Filter) (gone : List Id) :
    gone.foldl Registry.notifyRemoved filters = filters.map fun f => f.told gone := by
  induction gone generalizing filters with
  | nil => exact (List.map_id _).symm
  | cons id rest ih =>
    rw [List.foldl_cons, ih, Registry.notifyRemoved, List.map_map]
    rfl

/-- A cap forgets the identities of the meters that were removed. -/
theorem told_maxAllowedMeters (n : Nat) (seen : List Identity) (gone : List Id) :
    (maxAllowedMeters n seen).told gone =
      maxAllowedMeters n (seen.filter fun i => i ∉ gone.map Id.toIdentity) := by
  induction gone generalizing seen with
  | nil => simp [told]
  | cons id rest ih =>
    have hone : (maxAllowedMeters n seen).told (id :: rest) =
        (maxAllowedMeters n (seen.filter (· != id.toIdentity))).told rest := rfl
    rw [hone, ih, List.filter_filter]
    congr 1
    refine List.filter_congr fun i _ => ?_
    by_cases hi : i = id.toIdentity <;> simp [hi]

theorem told_own (outline : String) (map : Id → Id) (accept : List Heard → Id → Reply)
    (heard : List Heard) (gone : List Id) :
    (own outline map accept heard).told gone =
      own outline map accept ((gone.map Heard.removed).reverse ++ heard) := by
  induction gone generalizing heard with
  | nil => rfl
  | cons id rest ih =>
    have hone : (own outline map accept heard).told (id :: rest) =
        (own outline map accept (.removed id :: heard)).told rest := rfl
    rw [hone, ih]
    simp

theorem told_append (f : Filter) (gone later : List Id) :
    f.told (gone ++ later) = (f.told gone).told later :=
  List.foldl_append

theorem told_eq_self {f : Filter} (h : ∀ id, f.forget id = f) (gone : List Id) :
    f.told gone = f := by
  induction gone with
  | nil => rfl
  | cons id rest ih =>
    have hone : f.told (id :: rest) = (f.forget id).told rest := rfl
    rw [hone, h, ih]

/-- The filters of the library do not see the order of removals. -/
theorem told_perm {f : Filter} (hf : ¬ f.IsOwn) {gone gone' : List Id} (h : gone.Perm gone') :
    f.told gone = f.told gone' := by
  cases f with
  | maxAllowedMeters n seen =>
    have hmem (i : Identity) : i ∈ gone.map Id.toIdentity ↔ i ∈ gone'.map Id.toIdentity :=
      (h.map _).mem_iff
    simp only [told_maxAllowedMeters, hmem]
  | own outline map accept heard => exact absurd trivial hf
  | _ => rw [told_eq_self fun _ => rfl, told_eq_self fun _ => rfl]

end Filter

namespace Registry

/-! ## Identities are registered once -/

theorem nodup_identities_change {r : Registry World} (h : r.identities.Nodup) (c : Change World) :
    (r.change c).identities.Nodup := by
  rcases r.change_cases c with ⟨hsame, -⟩ | ⟨gone, hdropped⟩ | ⟨id, -, hasked⟩
  · rw [hsame]
    exact h
  · rw [hdropped.identities]
    exact h.filter _
  · rw [hasked.identities]
    split
    · exact h
    · rw [← List.concat_eq_append]
      exact h.concat hasked.new

theorem nodup_identities_course {r : Registry World} (h : r.identities.Nodup)
    (changes : List (Change World)) : (r.course changes).identities.Nodup := by
  induction changes generalizing r with
  | nil => exact h
  | cons c rest ih => exact ih (nodup_identities_change h c)

/-! ## Removing one by one -/

/-- The registry from which the meters of some identities were removed, one after another. -/
def removeAll (r : Registry World) (order : List Identity) : Registry World :=
  order.foldl (fun r identity => (r.remove identity).2) r

theorem idOf?_eq_none_iff {r : Registry World} {identity : Identity} :
    r.idOf? identity = none ↔ identity ∉ r.identities := by
  rw [← find?_eq_none_iff, idOf?, find?, Option.map_eq_none_iff, Option.map_eq_none_iff]

theorem idOf?_of_mem {r : Registry World} (h : r.identities.Nodup) {e : Id × Nat}
    (he : e ∈ r.entries) : r.idOf? e.1.toIdentity = some e.1 := by
  rw [idOf?, find?_key_eq_some h he]
  rfl

theorem remove_of_not_mem {r : Registry World} {identity : Identity}
    (h : identity ∉ r.identities) : r.remove identity = (none, r) := by
  have hnone := Option.map_eq_none_iff.1 (idOf?_eq_none_iff.2 h)
  rw [remove, hnone]

theorem idOf?_remove_of_ne {r : Registry World} {identity other : Identity}
    (h : other ≠ identity) : (r.remove other).2.idOf? identity = r.idOf? identity :=
  congrArg (Option.map Prod.fst) (find?_entries_remove_of_ne h)

/-- What removals of different identities leave: the filters have been told of those that were
registered, in the order of the removals. -/
theorem removeAll_eq (r : Registry World) {order : List Identity} (h : order.Nodup) :
    r.removeAll order =
      { r with
        entries := r.entries.filter fun e => e.1.toIdentity ∉ order
        filters := r.filters.map fun f => f.told (order.filterMap r.idOf?) } := by
  induction order generalizing r with
  | nil => simp [removeAll, Filter.told]
  | cons identity rest ih =>
    obtain ⟨hnew, hrest⟩ := List.nodup_cons.1 h
    have hlater : rest.filterMap (r.remove identity).2.idOf? = rest.filterMap r.idOf? :=
      List.filterMap_congr fun other hother =>
        idOf?_remove_of_ne fun heq => hnew (heq.symm ▸ hother)
    have hids : (identity :: rest).filterMap r.idOf? =
        (r.idOf? identity).toList ++ rest.filterMap r.idOf? := by
      cases hid : r.idOf? identity <;> simp [hid]
    have hentries : (r.entries.filter fun e => e.1.toIdentity != identity).filter
        (fun e => e.1.toIdentity ∉ rest) =
          r.entries.filter fun e => e.1.toIdentity ∉ identity :: rest := by
      rw [List.filter_filter]
      refine List.filter_congr fun e _ => ?_
      by_cases he : e.1.toIdentity = identity <;> simp [he]
    have hfilters : (r.filters.map fun f => f.told (r.idOf? identity).toList).map
        (fun f => f.told (rest.filterMap r.idOf?)) =
          r.filters.map fun f => f.told ((identity :: rest).filterMap r.idOf?) := by
      rw [List.map_map, hids]
      exact List.map_congr_left fun f _ => (Filter.told_append f _ _).symm
    have hnext : r.removeAll (identity :: rest) = (r.remove identity).2.removeAll rest := rfl
    rw [hnext, ih _ hrest, hlater, remove_eq, Filter.foldl_notifyRemoved]
    simp only [hentries, hfilters]

theorem filterMap_idOf? {r : Registry World} (h : r.identities.Nodup) {entries : List (Id × Nat)}
    (hentries : entries ⊆ r.entries) :
    (entries.map fun e => e.1.toIdentity).filterMap r.idOf? = entries.map (·.1) := by
  rw [List.filterMap_map, ← List.filterMap_eq_map]
  exact List.filterMap_congr fun e he => idOf?_of_mem h (hentries he)

/-- What is left when all that is registered was removed, in any order. -/
theorem removeAll_perm {r : Registry World} (h : r.identities.Nodup) {order : List Identity}
    (horder : order.Perm r.identities) :
    r.removeAll order =
        { r with
          entries := []
          filters := r.filters.map fun f => f.told (order.filterMap r.idOf?) } ∧
      (order.filterMap r.idOf?).Perm (r.entries.map (·.1)) := by
  refine ⟨?_, filterMap_idOf? h (List.Subset.refl _) ▸ horder.filterMap _⟩
  have hentries : (r.entries.filter fun e => e.1.toIdentity ∉ order) = [] := by
    rw [List.filter_eq_nil_iff]
    intro e he
    simpa using horder.mem_iff.2 (List.mem_map_of_mem he)
  rw [removeAll_eq r (horder.nodup_iff.2 h), hentries]

theorem clear_eq (r : Registry World) :
    r.clear =
      { r with
        entries := []
        filters := r.filters.map fun f => f.told (r.enumerated.map (·.1)) } := by
  rw [← Filter.foldl_notifyRemoved, List.foldl_map]
  rfl

/-! ## Main statement -/

/-- Clearing a registry leaves what is left when all that is registered is removed one by one, in any
order: no meter, store and convention as they were, and the filters of the library in the same states,
each cap without the registered identities. A filter of the application's own is told of the same
removals, each of them once, but maybe in another order than the one in which the registry goes
through its entries. To remove what is not registered changes nothing. -/
theorem clear_eq_removeAll (enumeration : Enumeration) (changes : List (Change World))
    {order : List Identity}
    (horder : order.Perm ((empty enumeration : Registry World).course changes).identities) :
    let r := (empty enumeration : Registry World).course changes
    let cleared := r.clear
    let removed := r.removeAll order
    let gone := r.enumerated.map (·.1)
    let gone' := order.filterMap r.idOf?
    cleared = { r with entries := [], filters := cleared.filters } ∧
      removed = { cleared with filters := removed.filters } ∧
      ((∀ f ∈ r.filters, ¬ f.IsOwn) ∨ order = gone.map Id.toIdentity → removed = cleared) ∧
      (∀ k : Nat, (∀ f, r.filters[k]? = some f → ¬ f.IsOwn) →
        removed.filters[k]? = cleared.filters[k]?) ∧
      (∀ (k n : Nat) (seen : List Identity), r.filters[k]? = some (.maxAllowedMeters n seen) →
        cleared.filters[k]? =
          some (.maxAllowedMeters n (seen.filter fun i => i ∉ r.identities))) ∧
      (∀ (k : Nat) outline map accept heard,
        r.filters[k]? = some (.own outline map accept heard) →
          cleared.filters[k]? =
              some (.own outline map accept ((gone.map Heard.removed).reverse ++ heard)) ∧
            removed.filters[k]? =
              some (.own outline map accept ((gone'.map Heard.removed).reverse ++ heard))) ∧
      gone'.Perm gone ∧
      ∀ identity, identity ∉ r.identities → r.remove identity = (none, r) := by
  intro r cleared removed gone gone'
  have hempty : (empty enumeration : Registry World).identities.Nodup := List.nodup_nil
  have hnodup : r.identities.Nodup := nodup_identities_course hempty changes
  have hcleared : cleared =
      { r with entries := [], filters := r.filters.map fun f => f.told gone } := clear_eq r
  obtain ⟨hremoved, hentered⟩ : removed =
      { r with entries := [], filters := r.filters.map fun f => f.told gone' } ∧
        gone'.Perm (r.entries.map (·.1)) :=
    removeAll_perm hnodup horder
  have hperm : gone'.Perm gone := hentered.trans (r.perm_enumerated.map _).symm
  have hsame {f : Filter} (hf : ¬ f.IsOwn) : f.told gone' = f.told gone :=
    Filter.told_perm hf hperm
  rw [hremoved, hcleared]
  refine ⟨rfl, rfl, ?_, fun k hk => ?_, fun k n seen hcap => ?_,
    fun k outline map accept heard hown => ?_, hperm, fun _ => remove_of_not_mem⟩
  · rintro (hall | heq)
    · congr 1
      exact List.map_congr_left fun f hf => hsame (hall f hf)
    · have hgone : gone' = gone := by
        simp only [gone', heq, gone, List.map_map]
        exact filterMap_idOf? hnodup r.perm_enumerated.subset
      rw [hgone]
  · rw [List.getElem?_map, List.getElem?_map]
    exact Option.map_congr fun f hf => hsame (hk f hf)
  · have hgone : ∀ i, i ∈ gone.map Id.toIdentity ↔ i ∈ r.identities := fun i => by
      simp [gone, identities, r.perm_enumerated.mem_iff]
    simp [hcap, Filter.told_maxAllowedMeters, hgone]
  · simp [hown, Filter.told_own]

/-- Two counters under a cap of two, the second of which is removed first: the cap is as good as new. -/
theorem clear_eq_removeAll_counters :
    let ask (name : String) : Change Unit :=
      .act (.register (.new name .counter) (MeterRequest.fits_new name .counter))
    let r := (empty : Registry Unit).course [.act (.addFilter (.cap 2)), ask "a", ask "b"]
    let order := [(Id.new "b" .counter).toIdentity, (Id.new "a" .counter).toIdentity]
    order.Perm r.identities ∧ r.removeAll order = r.clear ∧ r.clear.size = 0 ∧
      r.clear.filters[0]? = some (.cap 2) := by
  intro ask r order
  have horder : order.Perm r.identities := List.Perm.swap ..
  obtain ⟨-, -, hremoved, -, hcap, -⟩ :=
    clear_eq_removeAll .asEntered [.act (.addFilter (.cap 2)), ask "a", ask "b"] horder
  have hlibrary : ∀ f ∈ r.filters, ¬ f.IsOwn := by
    intro f hf
    obtain rfl := List.mem_singleton.1 hf
    exact id
  have hforgotten : (order.reverse.filter fun i => i ∉ r.identities) = [] := by decide
  exact ⟨horder, hremoved (.inl hlibrary), rfl,
    (hcap 0 2 order.reverse rfl).trans (congrArg (some <| Filter.maxAllowedMeters 2 ·) hforgotten)⟩

end Registry

end Telemetry
