import Telemetry.Meter.Instrument
import Telemetry.Naming.Convention
import Telemetry.Registry.Filter

/-!
# The registry

A registry makes meters and hands them out. Whoever asks twice for the same identity gets the same
meter, so an application may register a meter on every use. An id first passes through the filters,
which may change it; what is registered is the outcome.

Every meter that a registry has made stays in its store under a number, its *handle*, whether it
is registered, has been removed or was denied. The entries say which identities are registered and
where their meters are. Publishing and clearing go through the entries in an order that may be any.

## Main definitions

* `Enumeration`: an order in which entries are gone through.
* `Registry`: store, entries, filters, the convention that was set, and the enumeration.
* `Registry.getOrCreate`: the meter of an id; a new one if the filters let it.
* `Registry.register`: the same for an instrument of one form.
* `Registry.remove`, `Registry.clear`: removal, of which the filters are told.
-/

namespace Telemetry

/-- An order in which the entries of a registry are gone through: whatever the entries are, all of
them, each once. -/
structure Enumeration where
  order : List (Id × Nat) → List (Id × Nat)
  perm : ∀ entries, (order entries).Perm entries

/-- Entries in the order in which they were made. -/
def Enumeration.asEntered : Enumeration := ⟨id, fun _ => .rfl⟩

/-- The meters that were made, the identities that are registered, the settings, and the order in
which the registered meters are gone through. -/
structure Registry (World : Type) where
  store : List (Meter World)
  entries : List (Id × Nat)
  filters : List Filter
  explicit : Option Installed
  enumeration : Enumeration

/-- How a registration ended. -/
inductive Outcome
  | found
  | created
  | denied
deriving DecidableEq, Repr

/-- What a registration gives: the registry after it, the handle of the meter, and how it ended. -/
structure Registration (World : Type) where
  registry : Registry World
  handle : Nat
  outcome : Outcome

/-- What is registered when there is no meter yet: a new instrument, or a meter that was made
before. -/
inductive Candidate (World : Type)
  | fresh (instrument : Instrument World)
  | existing (handle : Nat)

namespace Registry

variable {World : Type}

/-- A registry without meters, filters or a convention of its own. -/
def empty (enumeration : Enumeration := .asEntered) : Registry World :=
  ⟨[], [], [], none, enumeration⟩

instance : Inhabited (Registry World) := ⟨empty⟩

/-- The meter behind a handle. -/
def meter? (r : Registry World) (handle : Nat) : Option (Meter World) := r.store[handle]?

/-- The handle of the meter registered under an identity. -/
def find? (r : Registry World) (identity : Identity) : Option Nat :=
  (r.entries.find? fun e => e.1.toIdentity == identity).map (·.2)

/-- The entries in the order in which they are gone through. -/
def enumerated (r : Registry World) : List (Id × Nat) := r.enumeration.order r.entries

/-- The handles of all registered meters. -/
def handles (r : Registry World) : List Nat := r.enumerated.map (·.2)

/-- The number of registered meters. -/
def size (r : Registry World) : Nat := r.entries.length

/-- All registered meters. -/
def meters (r : Registry World) : List (Meter World) := r.handles.filterMap r.meter?

/-- The registry with one more filter, which concerns later registrations only. -/
def addFilter (r : Registry World) (f : Filter) : Registry World :=
  { r with filters := r.filters ++ [f] }

/-- The registry with a convention of its own. -/
def setConvention (r : Registry World) (installed : Installed) : Registry World :=
  { r with explicit := some installed }

/-- The convention of a registry: the one that was set, or names as they are. -/
def convention (r : Registry World) : Installed := r.explicit.getD ⟨0, Convention.verbatim⟩

/-- Puts a meter into the store. -/
def keep (r : Registry World) (m : Meter World) : Registry World × Nat :=
  ({ r with store := r.store ++ [m] }, r.store.length)

/-- Changes the instrument behind a handle. -/
def modify (r : Registry World) (handle : Nat) (f : Instrument World → Instrument World) :
    Registry World :=
  { r with store := r.store.modify handle fun m => { m with instrument := f m.instrument } }

/-- Registers a handle under an id. -/
def enter (r : Registry World) (id : Id) (handle : Nat) : Registry World :=
  { r with entries := r.entries ++ [(id, handle)] }

/-- The meter of an id after the filters. If none is registered and no filter denies it, the
candidate is registered; if one does, the meter is idle and not registered. -/
def getOrCreate (r : Registry World) (id : Id) (candidate : Candidate World) :
    Registration World :=
  let mapped := mapAll r.filters id
  match r.find? mapped.toIdentity with
  | some handle => ⟨r, handle, .found⟩
  | none =>
    match verdict r.filters mapped with
    | (.deny, filters) =>
      let (r', handle) := { r with filters := filters }.keep (.denied mapped)
      ⟨r', handle, .denied⟩
    | (_, filters) =>
      match candidate with
      | .fresh instrument =>
        let (r', handle) := { r with filters := filters }.keep ⟨mapped, instrument⟩
        ⟨r'.enter mapped handle, handle, .created⟩
      | .existing handle => ⟨{ r with filters := filters }.enter mapped handle, handle, .created⟩

/-- The meter of an id for whoever needs one form of instrument. A registered meter of another form
does not serve; an idle meter with its id is handed out in its place. -/
def register (r : Registry World) (id : Id) (instrument : Instrument World) :
    Registration World :=
  let found := r.getOrCreate id (.fresh instrument)
  match found.registry.meter? found.handle with
  | none => found
  | some m =>
    if m.form = instrument.form then found
    else
      let (r', handle) := found.registry.keep ⟨m.id, .idle instrument.form⟩
      { found with registry := r', handle := handle }

/-- Tells all filters that a meter was removed. -/
def notifyRemoved (filters : List Filter) (id : Id) : List Filter :=
  filters.map fun f => f.forget id

/-- Removes the meter registered under an identity, and tells its handle. Handles to it keep
working. -/
def remove (r : Registry World) (identity : Identity) : Option Nat × Registry World :=
  match r.entries.find? fun e => e.1.toIdentity == identity with
  | none => (none, r)
  | some (id, handle) =>
    (some handle,
     { r with
       entries := r.entries.filter fun e => e.1.toIdentity != identity
       filters := notifyRemoved r.filters id })

/-- Removes all meters. -/
def clear (r : Registry World) : Registry World :=
  { r with
    entries := []
    filters := r.enumerated.foldl (fun filters e => notifyRemoved filters e.1) r.filters }

/-- The snapshot of the meter behind a handle, times in the given unit, and the registry after
it. -/
def take (r : Registry World) (handle : Nat) (unit : TimeUnit) (world : World) (now : UInt64) :
    Option (Snapshot × Registry World) :=
  (r.meter? handle).map fun m =>
    let (snapshot, instrument) := m.instrument.take unit world now
    (snapshot, r.modify handle fun _ => instrument)

end Registry

end Telemetry
