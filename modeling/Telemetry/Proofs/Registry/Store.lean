import Mathlib.Data.List.Basic
import Telemetry.Registry.Basic

/-!
# The store of a registry

Handles keep meaning what they meant: a meter that was put into the store stays behind its handle,
and what is done to one instrument is not done to another. What tells one meter from another — its
id, its form and whether it is idle — is its *badge*; recording and taking snapshots leave badges
and entries as they are.

## Main definitions

- `Meter.badge` — the id, form and idleness of a meter
- `Registry.Stored` — every entry has a meter in the store
- `Registry.SameMeters` — two registries differ in what their meters have recorded at most
- `Registry.idOf?` — the id under which an identity is registered

## Main statements

- `Registry.remove_eq` — what a removal leaves
-/

namespace Telemetry

variable {World : Type}

/-- What does not change about a meter while it records. -/
def Meter.badge (m : Meter World) : Id × Kind × Bool := (m.id, m.form, m.isIdle)

namespace Registry

/-- Every registered handle has a meter behind it. -/
def Stored (r : Registry World) : Prop := ∀ handle ∈ r.handles, handle < r.store.length

/-- The second registry has the entries, the settings and the badges of the first. -/
structure SameMeters (r r' : Registry World) : Prop where
  entries : r'.entries = r.entries
  filters : r'.filters = r.filters
  explicit : r'.explicit = r.explicit
  enumeration : r'.enumeration = r.enumeration
  badges : r'.store.map Meter.badge = r.store.map Meter.badge

/-! ## Enumerations -/

theorem perm_enumerated (r : Registry World) : r.enumerated.Perm r.entries :=
  r.enumeration.perm r.entries

@[simp] theorem length_handles (r : Registry World) : r.handles.length = r.size := by
  rw [handles, List.length_map, r.perm_enumerated.length_eq, size]

theorem mem_handles {r : Registry World} {handle : Nat} :
    handle ∈ r.handles ↔ ∃ e ∈ r.entries, e.2 = handle := by
  simp only [handles, List.mem_map, r.perm_enumerated.mem_iff]

/-! ## Handles -/

theorem meter?_lt {r : Registry World} {handle : Nat} {m : Meter World}
    (h : r.meter? handle = some m) : handle < r.store.length :=
  (List.getElem?_eq_some_iff.1 h).1

@[simp] theorem meter?_modify_self (r : Registry World) (handle : Nat)
    (f : Instrument World → Instrument World) :
    (r.modify handle f).meter? handle =
      (r.meter? handle).map fun m => { m with instrument := f m.instrument } := by
  simp [meter?, modify]

@[simp] theorem meter?_modify_of_ne (r : Registry World) {handle other : Nat}
    (h : handle ≠ other) (f : Instrument World → Instrument World) :
    (r.modify handle f).meter? other = r.meter? other := by
  simp [meter?, modify, h]

theorem modify_comm (r : Registry World) {handle other : Nat} (h : handle ≠ other)
    (f g : Instrument World → Instrument World) :
    (r.modify handle f).modify other g = (r.modify other g).modify handle f := by
  simp only [modify]
  rw [List.modify_modify_ne _ _ _ h]

theorem take_of_meter {r : Registry World} {handle : Nat} {m : Meter World}
    (h : r.meter? handle = some m) (unit : TimeUnit) (world : World) (now : UInt64) :
    r.take handle unit world now =
      some ((m.instrument.take unit world now).1,
        r.modify handle fun _ => (m.instrument.take unit world now).2) := by
  simp [take, h]

theorem take_eq_some {r r' : Registry World} {handle : Nat} {unit : TimeUnit} {world : World}
    {now : UInt64} {snapshot : Snapshot}
    (h : r.take handle unit world now = some (snapshot, r')) :
    ∃ m, r.meter? handle = some m ∧ snapshot = (m.instrument.take unit world now).1 ∧
      r' = r.modify handle fun _ => (m.instrument.take unit world now).2 := by
  obtain ⟨m, hm, htake⟩ := Option.map_eq_some_iff.1 h
  obtain ⟨rfl, rfl⟩ := Prod.mk.inj htake
  exact ⟨m, hm, rfl, rfl⟩

theorem take_eq_none_iff {r : Registry World} {handle : Nat} {unit : TimeUnit} {world : World}
    {now : UInt64} : r.take handle unit world now = none ↔ r.store.length ≤ handle := by
  rw [take, Option.map_eq_none_iff, meter?, List.getElem?_eq_none_iff]

/-- Snapshots of different meters can be taken in either order. -/
theorem take_comm {r r₁ r₂ : Registry World} {handle other : Nat} {unit : TimeUnit}
    {world : World} {now : UInt64} {s₁ s₂ : Snapshot} (hne : handle ≠ other)
    (h₁ : r.take handle unit world now = some (s₁, r₁))
    (h₂ : r.take other unit world now = some (s₂, r₂)) :
    ∃ r₃, r₁.take other unit world now = some (s₂, r₃) ∧
      r₂.take handle unit world now = some (s₁, r₃) := by
  obtain ⟨m₁, hm₁, rfl, rfl⟩ := take_eq_some h₁
  obtain ⟨m₂, hm₂, rfl, rfl⟩ := take_eq_some h₂
  refine ⟨_, take_of_meter ((meter?_modify_of_ne r hne _).trans hm₂) .., ?_⟩
  rw [take_of_meter ((meter?_modify_of_ne r (Ne.symm hne) _).trans hm₁), modify_comm r hne]

/-! ## Badges -/

namespace SameMeters

theorem refl (r : Registry World) : r.SameMeters r := ⟨rfl, rfl, rfl, rfl, rfl⟩

theorem trans {r r' r'' : Registry World} (h : r.SameMeters r') (h' : r'.SameMeters r'') :
    r.SameMeters r'' :=
  ⟨h'.entries.trans h.entries, h'.filters.trans h.filters, h'.explicit.trans h.explicit,
    h'.enumeration.trans h.enumeration, h'.badges.trans h.badges⟩

theorem symm {r r' : Registry World} (h : r.SameMeters r') : r'.SameMeters r :=
  ⟨h.entries.symm, h.filters.symm, h.explicit.symm, h.enumeration.symm, h.badges.symm⟩

theorem length_store {r r' : Registry World} (h : r.SameMeters r') :
    r'.store.length = r.store.length := by
  simpa using congrArg List.length h.badges

theorem handles {r r' : Registry World} (h : r.SameMeters r') : r'.handles = r.handles := by
  rw [Registry.handles, Registry.handles, enumerated, enumerated, h.enumeration, h.entries]

theorem find? {r r' : Registry World} (h : r.SameMeters r') (identity : Identity) :
    r'.find? identity = r.find? identity := by
  rw [Registry.find?, Registry.find?, h.entries]

theorem badge {r r' : Registry World} (h : r.SameMeters r') (handle : Nat) :
    (r'.meter? handle).map Meter.badge = (r.meter? handle).map Meter.badge := by
  rw [meter?, meter?, ← List.getElem?_map, ← List.getElem?_map, h.badges]

theorem exists_meter {r r' : Registry World} (h : r.SameMeters r') {handle : Nat}
    {m : Meter World} (hm : r.meter? handle = some m) :
    ∃ m', r'.meter? handle = some m' ∧ m'.id = m.id ∧ m'.form = m.form ∧
      m'.isIdle = m.isIdle := by
  have hbadge := h.badge handle
  rw [hm, Option.map_some] at hbadge
  obtain ⟨m', hm', heq⟩ := Option.map_eq_some_iff.1 hbadge
  exact ⟨m', hm', by simpa [Meter.badge] using heq⟩

end SameMeters

/-- A change that keeps form and idleness of the instrument behind a handle keeps all badges. -/
theorem sameMeters_modify {r : Registry World} {handle : Nat}
    {f : Instrument World → Instrument World}
    (h : ∀ m, r.meter? handle = some m →
      (f m.instrument).form = m.instrument.form ∧ (f m.instrument).isIdle = m.instrument.isIdle) :
    r.SameMeters (r.modify handle f) := by
  refine ⟨rfl, rfl, rfl, rfl, List.ext_getElem? fun n => ?_⟩
  rw [List.getElem?_map, List.getElem?_map]
  by_cases hn : handle = n
  · subst hn
    cases hm : r.store[handle]? with
    | none => simp [modify, hm]
    | some m =>
      obtain ⟨hform, hidle⟩ := h m hm
      simp [modify, hm, Meter.badge, Meter.form, Meter.isIdle, hform, hidle]
  · simp [modify, hn]

theorem sameMeters_take {r r' : Registry World} {handle : Nat} {unit : TimeUnit} {world : World}
    {now : UInt64} {snapshot : Snapshot}
    (h : r.take handle unit world now = some (snapshot, r')) : r.SameMeters r' := by
  obtain ⟨m, hm, -, rfl⟩ := take_eq_some h
  refine sameMeters_modify fun m' hm' => ?_
  obtain rfl : m = m' := Option.some.inj (hm.symm.trans hm')
  exact ⟨Instrument.form_take .., Instrument.isIdle_take ..⟩

/-! ## Removals -/

/-- The id under which an identity is registered. -/
def idOf? (r : Registry World) (identity : Identity) : Option Id :=
  (r.entries.find? fun e => e.1.toIdentity == identity).map (·.1)

theorem toIdentity_of_idOf?_eq_some {r : Registry World} {identity : Identity} {id : Id}
    (h : r.idOf? identity = some id) : id.toIdentity = identity := by
  obtain ⟨e, he, rfl⟩ := Option.map_eq_some_iff.1 h
  simpa using List.find?_some he

theorem toIdentity_ne_of_idOf?_eq_none {r : Registry World} {identity : Identity}
    (h : r.idOf? identity = none) {e : Id × Nat} (he : e ∈ r.entries) :
    e.1.toIdentity ≠ identity := by
  simpa using List.find?_eq_none.1 (Option.map_eq_none_iff.1 h) e he

/-- What a removal leaves, whether or not the identity was registered. -/
theorem remove_eq (r : Registry World) (identity : Identity) :
    (r.remove identity).2 =
      { r with
        entries := r.entries.filter fun e => e.1.toIdentity != identity
        filters := (r.idOf? identity).toList.foldl notifyRemoved r.filters } := by
  unfold remove
  cases hfind : r.entries.find? fun e => e.1.toIdentity == identity with
  | none =>
    have hid : r.idOf? identity = none := Option.map_eq_none_iff.2 hfind
    have hall : r.entries.filter (fun e => e.1.toIdentity != identity) = r.entries :=
      List.filter_eq_self.2 fun e he => by simpa using toIdentity_ne_of_idOf?_eq_none hid he
    rw [hall, hid]
    rfl
  | some e =>
    have hid : r.idOf? identity = some e.1 := by rw [idOf?, hfind, Option.map_some]
    rw [hid]
    rfl

theorem find?_entries_remove_of_ne {r : Registry World} {identity other : Identity}
    (h : other ≠ identity) :
    ((r.remove other).2.entries.find? fun e => e.1.toIdentity == identity) =
      r.entries.find? fun e => e.1.toIdentity == identity := by
  rw [remove_eq, List.find?_filter]
  congr 1
  funext e
  by_cases he : e.1.toIdentity = identity <;> simp [he, h.symm]

end Registry

end Telemetry
