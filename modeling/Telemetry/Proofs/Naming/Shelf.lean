import Telemetry.Naming.Shelf
import Telemetry.Proofs.Naming.Cache

/-!
# Shelves that keep what would be written anew

A cache is made for the first id of its identity that is written, and later serves other ids of the
same identity. These may be described differently, but as long as all have the same base unit, what
the cache keeps is right for each of them.

## Main definitions

- `Id.Measured` — an id has the base unit of its identity
- `RenderRules.Undescribed` — rules that do not look at descriptions
- `Shelf.Faithful` — all that the caches keep is what would be written anew
-/

namespace Telemetry

variable {Fragments : Type}

/-- The base unit is the one that meters of the identity have. -/
def Id.Measured (units : Identity → Option String) (id : Id) : Prop :=
  id.baseUnit = units id.toIdentity

/-- Ids that differ in their description alone are rendered alike. -/
def RenderRules.Undescribed (rules : RenderRules Fragments) : Prop :=
  ∀ (id other : Id) (convention : Convention), id.toIdentity = other.toIdentity →
    id.baseUnit = other.baseUnit → rules.render id convention = rules.render other convention

/-- A cache keeps what the rules write for its id, which has the unit of its identity. -/
structure NamingCache.Serves (rules : RenderRules Fragments) (places : Nat → Convention)
    (units : Identity → Option String) (identity : Identity) (cache : NamingCache Fragments) :
    Prop where
  faithful : cache.Faithful rules places
  measured : cache.id.Measured units
  identity : cache.id.toIdentity = identity

namespace Shelf

variable {rules : RenderRules Fragments} {places : Nat → Convention}
  {units : Identity → Option String} {shelf : Shelf Fragments}

/-- Every cache keeps what the rules write for its id, which has the unit of its identity. -/
def Faithful (rules : RenderRules Fragments) (places : Nat → Convention)
    (units : Identity → Option String) (shelf : Shelf Fragments) : Prop :=
  ∀ cache ∈ shelf, cache.Serves rules places units cache.id.toIdentity

theorem Faithful.cacheFor (h : shelf.Faithful rules places units) {id : Id}
    (hid : id.Measured units) :
    (shelf.cacheFor id).Serves rules places units id.toIdentity := by
  unfold Shelf.cacheFor
  cases hfind : shelf.find? fun c => c.id.toIdentity == id.toIdentity with
  | none => exact ⟨.new rules places id, hid, rfl⟩
  | some cache =>
    have hidentity : cache.id.toIdentity = id.toIdentity := by
      simpa using List.find?_some hfind
    have hserves := h cache (List.mem_of_find?_eq_some hfind)
    exact ⟨hserves.faithful, hserves.measured, hidentity⟩

theorem mem_store {cache other : NamingCache Fragments} (h : other ∈ shelf.store cache) :
    other = cache ∨ other ∈ shelf := by
  induction shelf with
  | nil => exact .inl (List.mem_singleton.1 h)
  | cons first rest ih =>
    unfold store at h
    split at h
    · exact (List.mem_cons.1 h).imp_right (List.mem_cons_of_mem first)
    · rcases List.mem_cons.1 h with rfl | hrest
      · exact .inr List.mem_cons_self
      · exact (ih hrest).imp_right (List.mem_cons_of_mem first)

theorem Faithful.store (h : shelf.Faithful rules places units) {cache : NamingCache Fragments}
    {identity : Identity} (hcache : cache.Serves rules places units identity) :
    (shelf.store cache).Faithful rules places units := by
  intro other hother
  rcases mem_store hother with rfl | hmem
  · exact ⟨hcache.faithful, hcache.measured, rfl⟩
  · exact h other hmem

theorem Faithful.retain (h : shelf.Faithful rules places units) (live : List Identity) :
    (shelf.retain live).Faithful rules places units :=
  fun cache hcache => h cache (List.mem_filter.1 hcache).1

/-- Only caches of identities that are still published are left. -/
theorem toIdentity_mem_of_mem_retain {live : List Identity} {cache : NamingCache Fragments}
    (h : cache ∈ shelf.retain live) : cache.id.toIdentity ∈ live := by
  simpa using (List.mem_filter.1 h).2

end Shelf

namespace NamingCache.Serves

variable {rules : RenderRules Fragments} {places : Nat → Convention}
  {units : Identity → Option String} {cache : NamingCache Fragments} {installed : Installed}
  {id : Id}

/-- A cache renders for every id of its identity as for its own. -/
theorem render_eq (h : cache.Serves rules places units id.toIdentity) (hid : id.Measured units)
    (hrules : rules.Undescribed) (convention : Convention) :
    rules.render cache.id convention = rules.render id convention := by
  refine hrules _ _ _ h.identity ?_
  rw [h.measured, hid, h.identity]

theorem render (h : cache.Serves rules places units id.toIdentity) (hid : id.Measured units)
    (hrules : rules.Undescribed) (hplace : installed.At places) :
    (cache.render rules installed).1.fragments = rules.render id installed.convention ∧
      (cache.render rules installed).2.1.Serves rules places units id.toIdentity := by
  obtain ⟨hfragments, hafter, hfaithful⟩ := h.faithful.render hplace
  refine ⟨hfragments.trans (h.render_eq hid hrules _), hfaithful, ?_, ?_⟩
  · exact hafter ▸ h.measured
  · exact hafter ▸ h.identity

theorem text (h : cache.Serves rules places units id.toIdentity) (hid : id.Measured units)
    (hrules : rules.Undescribed) (hplace : installed.At places) (statistic : Option Statistic) :
    (cache.text rules installed statistic).1 =
        rules.renderStatistic (rules.render id installed.convention) statistic ∧
      (cache.text rules installed statistic).2.1.Serves rules places units id.toIdentity := by
  obtain ⟨htext, hafter, hfaithful⟩ := h.faithful.text hplace statistic
  refine ⟨?_, hfaithful, ?_, ?_⟩
  · rw [htext, h.render_eq hid hrules]
  · exact hafter ▸ h.measured
  · exact hafter ▸ h.identity

end NamingCache.Serves

end Telemetry
