import Telemetry.Proofs.Naming.Shelf
import Telemetry.Proofs.Publish.Accounting
import Telemetry.Proofs.Registry.Course

/-!
# Backends that follow a rule

A backend keeps a cache from write to write and from publish to publish. It follows a rule if its
cache, whatever has been written and retained before, is such that every write gives what the rule
says for the id, the form, the snapshot and the convention. Then a publisher writes by the rule, too,
however long it has been publishing and whatever became of its registry in between.

## Main definitions

- `Backend.Call`, `Backend.after` — calls of a backend, and its cache after a list of them
- `Backend.Follows` — the laws of a backend that follows a rule
- `Publisher.callsOf`, `Publisher.cacheAt` — the calls of a backend in a publish, and its cache
- `Service` — a publisher and its registry; `Service.run` lets things happen to both
- `Registry.Uniform` — conventions are known by their numbers, and base units by identities

## Main statements

- `Backend.Follows.after` — the cache is good after any calls
- `Backend.Follows.iterate` — the shots of a publish are those of the rule
- `Publisher.calls_iterate` — every shot is written with the cache that the calls before it have left
- `Backend.Follows.run` — the cache of a publisher is good as long as it publishes
-/

namespace Telemetry

variable {World Record Cache : Type}

/-- What a write gives apart from the cache. -/
def Written.output (written : Written Record Cache) : List Record × List LogEvent :=
  (written.records, written.events)

/-- Output that is settled by the id and form of a meter, its snapshot and the convention. -/
abbrev OutputRule (Record : Type) := Id → Kind → Snapshot → Convention → List Record × List LogEvent

/-! ## Calls -/

namespace Backend

/-- A call of a backend that its cache takes part in. -/
inductive Call
  | write (id : Id) (form : Kind) (snapshot : Snapshot) (installed : Installed)
  | retain (live : List Identity)

/-- The convention is the one of its number, and the id has the base unit of its identity. -/
def Call.Uniform (places : Nat → Convention) (units : Identity → Option String) : Call → Prop
  | write id _ _ installed => id.Measured units ∧ installed.At places
  | retain _ => True

def next (backend : Backend Record Cache) (cache : Cache) : Call → Cache
  | .write id form snapshot installed => (backend.write cache id form snapshot installed).cache
  | .retain live => backend.retain cache live

/-- The cache of a backend after some calls. -/
def after (backend : Backend Record Cache) (calls : List Call) : Cache :=
  calls.foldl backend.next backend.fresh

/-- The laws of a backend that follows a rule: its cache is good at first, and it stays good and
does not show as long as numbers stand for one convention each and identities for one base unit. -/
structure Follows (backend : Backend Record Cache) (rule : OutputRule Record)
    (Good : (Nat → Convention) → (Identity → Option String) → Cache → Prop) : Prop where
  fresh : ∀ places units, Good places units backend.fresh
  output : ∀ {places units cache id installed}, Good places units cache → id.Measured units →
    installed.At places → ∀ form snapshot,
    (backend.write cache id form snapshot installed).output =
      rule id form snapshot installed.convention
  write : ∀ {places units cache id installed}, Good places units cache → id.Measured units →
    installed.At places → ∀ form snapshot,
    Good places units (backend.write cache id form snapshot installed).cache
  retain : ∀ {places units cache}, Good places units cache → ∀ live,
    Good places units (backend.retain cache live)

variable {backend : Backend Record Cache} {rule : OutputRule Record}
  {Good : (Nat → Convention) → (Identity → Option String) → Cache → Prop}
  {places : Nat → Convention} {units : Identity → Option String}

theorem Follows.next (h : backend.Follows rule Good) {cache : Cache}
    (hcache : Good places units cache) {call : Call} (hcall : call.Uniform places units) :
    Good places units (backend.next cache call) := by
  cases call with
  | write id form snapshot installed => exact h.write hcache hcall.1 hcall.2 form snapshot
  | retain live => exact h.retain hcache live

theorem Follows.foldl (h : backend.Follows rule Good) {cache : Cache}
    (hcache : Good places units cache) {calls : List Call}
    (hcalls : ∀ call ∈ calls, call.Uniform places units) :
    Good places units (calls.foldl backend.next cache) := by
  induction calls generalizing cache with
  | nil => exact hcache
  | cons call rest ih =>
    obtain ⟨hcall, hrest⟩ := List.forall_mem_cons.1 hcalls
    exact ih (h.next hcache hcall) hrest

theorem Follows.after (h : backend.Follows rule Good) {calls : List Call}
    (hcalls : ∀ call ∈ calls, call.Uniform places units) :
    Good places units (backend.after calls) :=
  h.foldl (h.fresh places units) hcalls

theorem Follows.output_fresh (h : backend.Follows rule Good) (id : Id) (form : Kind)
    (snapshot : Snapshot) (installed : Installed) :
    (backend.write backend.fresh id form snapshot installed).output =
      rule id form snapshot installed.convention :=
  -- a new cache suits any numbers and units, so those that fit this write will do
  h.output (h.fresh (fun _ => installed.convention) fun _ => id.baseUnit) rfl rfl form snapshot

end Backend

/-! ## One publish -/

/-- The convention of a registry is the one of its number, and registered meters have the base unit
of their identities. -/
structure Registry.Uniform (places : Nat → Convention) (units : Identity → Option String)
    (r : Registry World) : Prop where
  explicit : ∀ installed ∈ r.explicit, installed.At places
  meters : ∀ m ∈ r.meters, m.id.Measured units

theorem Registry.Uniform.measured {places : Nat → Convention} {units : Identity → Option String}
    {r : Registry World} (h : r.Uniform places units) {handle : Nat} (hhandle : handle ∈ r.handles)
    {m : Meter World} (hm : r.meter? handle = some m) : m.id.Measured units :=
  h.meters m (List.mem_filterMap.2 ⟨handle, hhandle, hm⟩)

theorem Registry.Uniform.of_sameMeters {places : Nat → Convention}
    {units : Identity → Option String} {r r' : Registry World} (h : r.Uniform places units)
    (hmeters : r.SameMeters r') : r'.Uniform places units := by
  constructor
  case explicit => exact hmeters.explicit ▸ h.explicit
  case meters =>
    intro m hm
    obtain ⟨handle, hhandle, hm⟩ := List.mem_filterMap.1 hm
    obtain ⟨m₀, hm₀, hid, -, -⟩ := hmeters.symm.exists_meter hm
    exact hid ▸ h.measured (hmeters.handles ▸ hhandle) hm₀

theorem Registry.Uniform.setConvention {places : Nat → Convention}
    {units : Identity → Option String} {r : Registry World} (h : r.Uniform places units)
    {installed : Installed} (hplace : installed.At places) :
    (r.setConvention installed).Uniform places units := by
  constructor
  case explicit =>
    rintro other ⟨⟩
    exact hplace
  case meters => exact h.meters

def OutputRule.records (rule : OutputRule Record) : WriteRule Record :=
  fun id form snapshot installed => (rule id form snapshot installed.convention).1

namespace Backend.Follows

variable {backend : Backend Record Cache} {rule : OutputRule Record}
  {Good : (Nat → Convention) → (Identity → Option String) → Cache → Prop}
  {places : Nat → Convention} {units : Identity → Option String}

/-- One more meter leaves the cache good and adds no shot but that of the rule. -/
theorem collect (h : backend.Follows rule Good) (view : View World) {start : Registry World}
    (hstart : start.Uniform places units) (hplace : view.installed.At places)
    (c : Collected World Record Cache) {handle : Nat} (hhandle : handle ∈ start.handles)
    (hkept : start.SameMeters c.registry ∧ Good places units c.cache)
    (hright : ∀ s ∈ c.shots, s = Shot.byRule rule.records start view.installed s.taken) :
    let c' := Telemetry.collect backend view c handle
    (start.SameMeters c'.registry ∧ Good places units c'.cache) ∧
      ∀ s ∈ c'.shots, s = Shot.byRule rule.records start view.installed s.taken := by
  intro c'
  obtain ⟨hsame, hcache⟩ := hkept
  obtain heq | ⟨m, snapshot, records, hm, hmeters, hshots, hwritten⟩ :=
    collect_cases backend view c handle
  · have hc' : c' = c := heq
    rw [hc']
    exact ⟨⟨hsame, hcache⟩, hright⟩
  · -- the meter has the id and the form that it had when the publish began
    obtain ⟨m₀, hm₀, hid, hform, -⟩ := hsame.symm.exists_meter hm
    have hmeasured : m.id.Measured units := hid ▸ hstart.measured hhandle hm₀
    have hshot (hnew : (⟨handle, snapshot, records⟩ : Shot Record) =
        Shot.byRule rule.records start view.installed (handle, snapshot)) :
        ∀ s ∈ c'.shots, s = Shot.byRule rule.records start view.installed s.taken := by
      rw [hshots]
      exact List.forall_mem_append.2 ⟨hright, List.forall_mem_singleton.2 hnew⟩
    obtain ⟨hfinite, rfl, hcache'⟩ | ⟨hfinite, rfl, hcache'⟩ := hwritten
    · have hrule : (backend.write c.cache m.id m.form snapshot view.installed).records =
          rule.records m₀.id m₀.form snapshot view.installed := by
        rw [hid, hform]
        exact congrArg Prod.fst (h.output hcache hmeasured hplace m.form snapshot)
      have hgood := h.write hcache hmeasured hplace m.form snapshot
      refine ⟨⟨hsame.trans hmeters, hcache' ▸ hgood⟩, hshot ?_⟩
      simp [Shot.byRule, hfinite, hm₀, hrule]
    · refine ⟨⟨hsame.trans hmeters, hcache' ▸ hcache⟩, hshot ?_⟩
      simp [Shot.byRule, hfinite]

end Backend.Follows

/-- The records of the shots are those that were encoded. -/
theorem flatten_encoded_publishBatch {backend : Backend Record Cache} {view : View World}
    {runtime : Bool} {done : Progress World Record Cache}
    (h : done.encoded.flatten = done.shots.flatMap Shot.written) (batch : List Nat) :
    (publishBatch backend view runtime done batch).encoded.flatten =
      (publishBatch backend view runtime done batch).shots.flatMap Shot.written := by
  have hrecords := (correct_collectBatch backend view done.registry done.cache batch).records
  simp only [publishBatch]
  generalize collectBatch backend view done.registry done.cache batch = c at hrecords
  split
  · next hempty =>
    have hnone : c.shots.flatMap Shot.written = [] := by
      rw [← hrecords]
      exact List.isEmpty_iff.1 hempty
    rw [List.flatMap_append, hnone, List.append_nil]
    exact h
  · split <;> simp [h, hrecords]

theorem flatten_encoded_foldl (backend : Backend Record Cache) (view : View World)
    (runtime : Bool) (done : Progress World Record Cache)
    (h : done.encoded.flatten = done.shots.flatMap Shot.written) (batches : List (List Nat)) :
    (batches.foldl (publishBatch backend view runtime) done).encoded.flatten =
      (batches.foldl (publishBatch backend view runtime) done).shots.flatMap Shot.written := by
  induction batches generalizing done with
  | nil => exact h
  | cons batch rest ih => exact ih _ (flatten_encoded_publishBatch h batch)

namespace Publisher

variable {p : Publisher Record Cache} {r : Registry World} {preferred : Installed}

theorem flatten_encoded_progress (p : Publisher Record Cache) (r : Registry World)
    (look : Registry World → World) (now : UInt64) (runtime : Bool) :
    (p.progress r look now runtime).encoded.flatten =
      (p.progress r look now runtime).shots.flatMap Shot.written :=
  flatten_encoded_foldl _ _ _ _ rfl _

theorem publisher_iterate (p : Publisher Record Cache) (r : Registry World)
    (look : Registry World → World) (now : UInt64) (runtime : Bool) :
    let p' := (p.iterate r look now runtime).publisher
    p'.backend = p.backend ∧ p'.preferred = p.preferred ∧
      p'.cache = (p.progress r look now runtime).cache := by
  cases runtime <;> exact ⟨rfl, rfl, rfl⟩

theorem publisher_answered (p : Publisher Record Cache) (position : Nat) (answer : Answer) :
    let p' := (p.answered position answer).1
    p'.backend = p.backend ∧ p'.preferred = p.preferred ∧ p'.cache = p.cache := by
  unfold answered
  split <;> exact ⟨rfl, rfl, rfl⟩

/-- The convention of a publish is the registry's own, else the preferred one. -/
theorem convention_conventionFor (h : p.preferred = some preferred) :
    (p.conventionFor r).convention =
      (r.explicit.map Installed.convention).getD preferred.convention := by
  unfold conventionFor
  cases r.explicit <;> simp [h]

theorem at_conventionFor {places : Nat → Convention} (h : p.preferred = some preferred)
    (hpreferred : preferred.At places) (hexplicit : ∀ installed ∈ r.explicit, installed.At places) :
    (p.conventionFor r).At places := by
  unfold conventionFor
  cases hr : r.explicit with
  | none => simpa [h] using hpreferred
  | some installed => exact hexplicit installed hr

end Publisher

/-- The call by which a shot is written; none if it is skipped. -/
def Shot.call? (r : Registry World) (installed : Installed) (s : Shot Record) :
    Option Backend.Call :=
  if s.snapshot.hasFiniteValue then
    (r.meter? s.handle).map fun m => .write m.id m.form s.snapshot installed
  else none

/-- The calls of the backend in a publish that has come to some shots. -/
def Publisher.callsOf (p : Publisher Record Cache) (r : Registry World)
    (shots : List (Shot Record)) : List Backend.Call :=
  .retain (r.meters.map fun m => m.id.toIdentity) ::
    shots.filterMap (Shot.call? r (p.conventionFor r))

namespace Publisher

/-- The cache when a publish has come to some shots. -/
def cacheAt (p : Publisher Record Cache) (r : Registry World) (shots : List (Shot Record)) :
    Cache :=
  (p.callsOf r shots).foldl p.backend.next p.cache

theorem cacheAt_concat (p : Publisher Record Cache) (r : Registry World)
    (shots : List (Shot Record)) (new : Shot Record) :
    p.cacheAt r (shots ++ [new]) =
      (new.call? r (p.conventionFor r)).elim (p.cacheAt r shots)
        (p.backend.next (p.cacheAt r shots)) := by
  cases hcall : new.call? r (p.conventionFor r) <;> simp [cacheAt, callsOf, hcall]

/-- What has been written for the meter of a shot, if anything, was written with a cache. -/
def WrittenAt (p : Publisher Record Cache) (r : Registry World) (cache : Cache)
    (shot : Shot Record) : Prop :=
  ∃ m, r.meter? shot.handle = some m ∧ shot.written =
    if shot.snapshot.hasFiniteValue then
      (p.backend.write cache m.id m.form shot.snapshot (p.conventionFor r)).records
    else []

/-- A publish that has come to some shots has written each with the cache that those before it have
left. -/
structure Traced (p : Publisher Record Cache) (r now : Registry World) (cache : Cache)
    (shots : List (Shot Record)) : Prop where
  meters : r.SameMeters now
  cache : cache = p.cacheAt r shots
  shots : ∀ k shot, shots[k]? = some shot → p.WrittenAt r (p.cacheAt r (shots.take k)) shot

theorem Traced.collect {p : Publisher Record Cache} {r : Registry World} {view : View World}
    (hview : view.installed = p.conventionFor r) {c : Collected World Record Cache}
    {earlier : List (Shot Record)} (h : p.Traced r c.registry c.cache (earlier ++ c.shots))
    (handle : Nat) :
    let c' := Telemetry.collect p.backend view c handle
    p.Traced r c'.registry c'.cache (earlier ++ c'.shots) := by
  intro c'
  obtain heq | ⟨m, snapshot, records, hm, hmeters, hshots, hwritten⟩ :=
    collect_cases p.backend view c handle
  · have hc' : c' = c := heq
    rw [hc']
    exact h
  rw [hshots, ← List.append_assoc]
  generalize earlier ++ c.shots = before at h
  -- the meter has the id and the form that it had when the publish began
  obtain ⟨m₀, hm₀, hid, hform, -⟩ := h.meters.symm.exists_meter hm
  have hwrite : p.backend.write c.cache m.id m.form snapshot view.installed =
      p.backend.write (p.cacheAt r before) m₀.id m₀.form snapshot (p.conventionFor r) := by
    rw [hid, hform, hview, h.cache]
  constructor
  case meters => exact h.meters.trans hmeters
  case cache =>
    rw [cacheAt_concat]
    obtain ⟨hfinite, -, hcache⟩ | ⟨hfinite, -, hcache⟩ := hwritten
    · have hcall : (Shot.mk handle snapshot records).call? r (p.conventionFor r) =
          some (.write m₀.id m₀.form snapshot (p.conventionFor r)) := by
        simp [Shot.call?, hfinite, hm₀]
      rw [hcall]
      exact hcache.trans (congrArg Written.cache hwrite)
    · have hcall : (Shot.mk handle snapshot records).call? r (p.conventionFor r) = none := by
        simp [Shot.call?, hfinite]
      rw [hcall]
      exact hcache.trans h.cache
  case shots =>
    intro k shot hshot
    by_cases hk : k < before.length
    · rw [List.getElem?_append_left hk] at hshot
      rw [List.take_append_of_le_length hk.le]
      exact h.shots k shot hshot
    · -- only the new shot stands behind the others
      rw [List.getElem?_append_right (Nat.le_of_not_lt hk), List.getElem?_singleton] at hshot
      obtain ⟨hlast, hnew⟩ := Option.ite_none_right_eq_some.1 hshot
      obtain rfl : _ = shot := Option.some.inj hnew
      have hend : k = before.length := by omega
      refine ⟨m₀, hm₀, ?_⟩
      rw [hend, List.take_left]
      obtain ⟨hfinite, rfl, -⟩ | ⟨hfinite, rfl, -⟩ := hwritten
      · rw [if_pos hfinite]
        exact congrArg Written.records hwrite
      · simp [hfinite, Shot.written]

/-- A publish leaves the cache of its calls, and every shot is written with the cache that the calls
before it have left. -/
theorem calls_iterate (p : Publisher Record Cache) (r : Registry World)
    (look : Registry World → World) (now : UInt64) (runtime : Bool) :
    let it := p.iterate r look now runtime
    it.publisher.cache = p.cacheAt r it.shots ∧
      ∀ k shot, it.shots[k]? = some shot →
        p.WrittenAt r (p.cacheAt r (it.shots.take k)) shot := by
  have hstart :
      p.Traced r r (p.backend.retain p.cache (r.meters.map fun m => m.id.toIdentity)) [] :=
    ⟨.refl r, rfl, by simp⟩
  have hdone := foldl_publishBatch_invariant p.backend (p.viewOf r look now) runtime (p.Traced r)
    (fun c earlier handle _ h => h.collect rfl handle) ⟨r, _, ⟨0, 0, 0, 0⟩, [], [], [], []⟩ hstart
    (List.Subset.refl (batches r.handles p.config.batchSize).flatten)
  exact ⟨(p.publisher_iterate r look now runtime).2.2.trans hdone.cache, hdone.shots⟩

end Publisher

/-- A publish by a rule leaves a good cache. Its shots are those of the rule, and their records are
what is encoded. -/
theorem Backend.Follows.iterate {p : Publisher Record Cache} {rule : OutputRule Record}
    {Good : (Nat → Convention) → (Identity → Option String) → Cache → Prop}
    {places : Nat → Convention} {units : Identity → Option String} {r : Registry World}
    (h : p.backend.Follows rule Good) (hcache : Good places units p.cache)
    (hr : r.Uniform places units) (hplace : (p.conventionFor r).At places)
    (look : Registry World → World) (now : UInt64) (runtime : Bool) :
    let it := p.iterate r look now runtime
    Good places units it.publisher.cache ∧
      (∀ s ∈ it.shots, s = Shot.byRule rule.records r (p.conventionFor r) s.taken) ∧
      it.encoded.flatten = it.shots.flatMap Shot.written := by
  intro it
  have hbatches : (batches r.handles p.config.batchSize).flatten ⊆ r.handles := by
    rw [flatten_batches]
    exact List.Subset.refl _
  obtain ⟨⟨-, hgood⟩, hshots⟩ := foldl_publishBatch_induction p.backend
    ⟨look, now, p.conventionFor r⟩ runtime
    (fun r' cache => r.SameMeters r' ∧ Good places units cache)
    (fun s => s = Shot.byRule rule.records r (p.conventionFor r) s.taken)
    (fun c _ hhandle => h.collect ⟨look, now, p.conventionFor r⟩ hr hplace c hhandle)
    ⟨r, p.backend.retain p.cache (r.meters.map fun m => m.id.toIdentity), ⟨0, 0, 0, 0⟩,
      [], [], [], []⟩ ⟨.refl r, h.retain hcache _⟩ (by simp) hbatches
  refine ⟨?_, hshots, p.flatten_encoded_progress r look now runtime⟩
  rw [(p.publisher_iterate r look now runtime).2.2]
  exact hgood

/-! ## A publisher and its registry -/

/-- A publisher, and the registry whose meters it publishes. -/
structure Service (World Record Cache : Type) where
  publisher : Publisher Record Cache
  registry : Registry World

namespace Service

/-- What may happen: the registry changes, also because others publish it; the publisher publishes;
a send of it ends. -/
inductive Step (World : Type) : Type 1
  | change (c : Change World)
  | publish (look : Registry World → World) (now : UInt64) (runtime : Bool)
  | answer (position : Nat) (answer : Answer)

def step (s : Service World Record Cache) : Step World → Service World Record Cache
  | .change c => ⟨s.publisher, s.registry.change c⟩
  | .publish look now runtime =>
    let it := s.publisher.iterate s.registry look now runtime
    ⟨it.publisher, it.registry⟩
  | .answer position answer => ⟨(s.publisher.answered position answer).1, s.registry⟩

def run (s : Service World Record Cache) (steps : List (Step World)) :
    Service World Record Cache :=
  steps.foldl step s

/-- Backend, settings and preferred convention of a publisher stay as they are. -/
theorem publisher_run (s : Service World Record Cache) (steps : List (Step World)) :
    (s.run steps).publisher.backend = s.publisher.backend ∧
      (s.run steps).publisher.config = s.publisher.config ∧
      (s.run steps).publisher.preferred = s.publisher.preferred := by
  induction steps generalizing s with
  | nil => exact ⟨rfl, rfl, rfl⟩
  | cons next rest ih =>
    have hstep : (s.step next).publisher.backend = s.publisher.backend ∧
        (s.step next).publisher.config = s.publisher.config ∧
        (s.step next).publisher.preferred = s.publisher.preferred := by
      cases next with
      | change c => exact ⟨rfl, rfl, rfl⟩
      | publish look now runtime => cases runtime <;> exact ⟨rfl, rfl, rfl⟩
      | answer position answer =>
        simp only [step, Publisher.answered]
        split <;> exact ⟨rfl, rfl, rfl⟩
    obtain ⟨hbackend, hconfig, hpreferred⟩ := ih (s.step next)
    exact ⟨hbackend.trans hstep.1, hconfig.trans hstep.2.1, hpreferred.trans hstep.2.2⟩

/-- The convention of the registry is of its number if all that are installed in a run are. -/
theorem explicit_run {places : Nat → Convention} {s : Service World Record Cache}
    (hexplicit : ∀ installed ∈ s.registry.explicit, installed.At places) {steps : List (Step World)}
    (hsteps : ∀ installed, .change (.act (.setConvention installed)) ∈ steps →
      installed.At places) :
    ∀ installed ∈ (s.run steps).registry.explicit, installed.At places := by
  induction steps generalizing s with
  | nil => exact hexplicit
  | cons next rest ih =>
    refine ih ?_ fun installed hmem => hsteps installed (List.mem_cons_of_mem _ hmem)
    cases next with
    | answer position answer => exact hexplicit
    | publish look now runtime =>
      have hsame := Registry.sameMeters_publish s.registry s.publisher look now runtime
      intro installed hinstalled
      exact hexplicit installed (hsame.explicit ▸ hinstalled)
    | change c =>
      rcases s.registry.explicit_change c with heq | ⟨installed, rfl, heq⟩
      · intro installed hinstalled
        exact hexplicit installed (heq ▸ hinstalled)
      · intro other hother
        obtain rfl : other = installed := Option.some.inj (hother.symm.trans heq)
        exact hsteps other List.mem_cons_self

/-- A publisher publishes its registry only when that is uniform. -/
def Step.Uniform (places : Nat → Convention) (units : Identity → Option String)
    (s : Service World Record Cache) : Step World → Prop
  | publish _ _ _ => s.registry.Uniform places units
  | _ => True

/-- The registry is uniform whenever the publisher publishes it. -/
def Uniform (places : Nat → Convention) (units : Identity → Option String) :
    Service World Record Cache → List (Step World) → Prop
  | _, [] => True
  | s, next :: rest => next.Uniform places units s ∧ (s.step next).Uniform places units rest

theorem uniform_append {places : Nat → Convention} {units : Identity → Option String}
    {s : Service World Record Cache} {front back : List (Step World)} :
    s.Uniform places units (front ++ back) ↔
      s.Uniform places units front ∧ (s.run front).Uniform places units back := by
  induction front generalizing s with
  | nil => exact ⟨fun h => ⟨trivial, h⟩, And.right⟩
  | cons first rest ih =>
    simp only [List.cons_append, Uniform, ih, and_assoc]
    rfl

/-- The publisher of a service has a backend and a preferred convention, and a good cache. -/
structure Has (backend : Backend Record Cache) (preferred : Installed) (Good : Cache → Prop)
    (s : Service World Record Cache) : Prop where
  backend : s.publisher.backend = backend
  preferred : s.publisher.preferred = some preferred
  cache : Good s.publisher.cache

end Service

namespace Backend.Follows

variable {backend : Backend Record Cache} {rule : OutputRule Record}
  {Good : (Nat → Convention) → (Identity → Option String) → Cache → Prop}
  {places : Nat → Convention} {units : Identity → Option String} {preferred : Installed}
  {s : Service World Record Cache}

theorem step (h : backend.Follows rule Good) (hpreferred : preferred.At places)
    (hs : s.Has backend preferred (Good places units)) {next : Service.Step World}
    (hnext : next.Uniform places units s) :
    (s.step next).Has backend preferred (Good places units) := by
  cases next with
  | change c =>
    -- other publishers have caches of their own
    exact ⟨hs.backend, hs.preferred, hs.cache⟩
  | answer position answer =>
    obtain ⟨hbackend, hconvention, hcache⟩ := s.publisher.publisher_answered position answer
    exact ⟨hbackend.trans hs.backend, hconvention.trans hs.preferred, hcache ▸ hs.cache⟩
  | publish look now runtime =>
    obtain ⟨hbackend, hconvention, -⟩ :=
      s.publisher.publisher_iterate s.registry look now runtime
    have hplace := Publisher.at_conventionFor hs.preferred hpreferred hnext.explicit
    obtain ⟨hcache, -⟩ :=
      (hs.backend.symm ▸ h).iterate hs.cache hnext hplace look now runtime
    exact ⟨hbackend.trans hs.backend, hconvention.trans hs.preferred, hcache⟩

theorem run (h : backend.Follows rule Good) (hpreferred : preferred.At places)
    (hs : s.Has backend preferred (Good places units)) {steps : List (Service.Step World)}
    (hsteps : s.Uniform places units steps) :
    (s.run steps).Has backend preferred (Good places units) := by
  induction steps generalizing s with
  | nil => exact hs
  | cons next rest ih => exact ih (h.step hpreferred hs hsteps.1) hsteps.2

end Backend.Follows

end Telemetry
