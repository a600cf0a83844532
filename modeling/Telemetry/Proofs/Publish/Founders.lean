import Telemetry.Proofs.Publish.Transparency

/-!
# Names under the unit that came first

Caches are kept by identity, and the base unit of a meter does not belong to its identity. A cache is
made for the first id of its identity that is written and renders that id from then on, until a publish
finds the identity missing. If a meter is removed and its identity registered with another base unit
before the next publish, no publish finds it missing, and the new meter is named with the unit of the
old one.

## Main definitions

- `Backend.unitOf` — the base unit that some calls have left an identity with, if any
- `Backend.Shelves` — the laws of a backend that keeps its caches on a shelf
- `Service.calls` — the calls of a publisher's backend in a run

## Main statements

- `Backend.Shelves.after` — the shelf after any calls
- `Backend.unitOf_eq_some` — the unit is one that was written since the identity was missing last
- `rendered_under_first_unit` — names and tags of all that is published to StatsD and New Relic
- `reregistered_under_old_unit` — a meter that is named with the unit of another one
-/

namespace Telemetry

/-- The id with the base unit that is known for its identity, else with its own. -/
def Id.under (known : Option (Option String)) (id : Id) : Id :=
  { id with baseUnit := known.getD id.baseUnit }

theorem Id.measured_under (id : Id) (known : Option (Option String)) :
    (id.under known).Measured fun _ => (id.under known).baseUnit :=
  rfl

/-! ## Shelves -/

namespace Shelf

variable {Fragments : Type} {rules : RenderRules Fragments} {places : Nat → Convention}
  {shelf : Shelf Fragments} {known : Identity → Option (Option String)}

/-- The base unit of the id that the cache of an identity was made for. -/
def unit? (shelf : Shelf Fragments) (identity : Identity) : Option (Option String) :=
  (shelf.find? fun c => c.id.toIdentity == identity).map fun c => c.id.baseUnit

theorem unit?_store (shelf : Shelf Fragments) (cache : NamingCache Fragments)
    (identity : Identity) :
    (shelf.store cache).unit? identity =
      if identity = cache.id.toIdentity then some cache.id.baseUnit else shelf.unit? identity := by
  induction shelf with
  | nil =>
    by_cases h : identity = cache.id.toIdentity
    · simp [store, unit?, h]
    · simp [store, unit?, h, Ne.symm h]
  | cons first rest ih =>
    unfold store
    by_cases hfirst : first.id.toIdentity = cache.id.toIdentity
    · by_cases h : identity = cache.id.toIdentity
      · simp [unit?, hfirst, h]
      · simp [unit?, hfirst, h, Ne.symm h]
    · simp only [unit?] at ih
      by_cases h : first.id.toIdentity = identity
      · have hne : identity ≠ cache.id.toIdentity := h ▸ hfirst
        simp [unit?, h, hne]
      · simp [unit?, hfirst, h, ih]

theorem unit?_retain (shelf : Shelf Fragments) (live : List Identity) (identity : Identity) :
    (shelf.retain live).unit? identity =
      if identity ∈ live then shelf.unit? identity else none := by
  unfold unit? retain
  rw [List.find?_filter]
  by_cases h : identity ∈ live
  · rw [if_pos h]
    congr 2
    funext c
    by_cases hc : c.id.toIdentity = identity
    · simp [hc, h]
    · simp [hc]
  · rw [if_neg h, Option.map_eq_none_iff, List.find?_eq_none]
    intro c _ hc
    obtain ⟨hmem, rfl⟩ : c.id.toIdentity ∈ live ∧ c.id.toIdentity = identity := by simpa using hc
    exact h hmem

/-- All caches keep what would be written anew, and they are made for the known base units. -/
structure Knows (rules : RenderRules Fragments) (places : Nat → Convention)
    (known : Identity → Option (Option String)) (shelf : Shelf Fragments) : Prop where
  faithful : ∀ cache ∈ shelf, cache.Faithful rules places
  units : ∀ identity, shelf.unit? identity = known identity

/-- The cache of an identity serves the id with the known base unit. -/
theorem Knows.cacheFor (h : shelf.Knows rules places known) (id : Id) :
    (shelf.cacheFor id).Serves rules places (fun _ => (id.under (known id.toIdentity)).baseUnit)
      (id.under (known id.toIdentity)).toIdentity := by
  have hunit := h.units id.toIdentity
  unfold unit? at hunit
  unfold Shelf.cacheFor
  cases hfind : shelf.find? fun c => c.id.toIdentity == id.toIdentity with
  | none =>
    rw [hfind] at hunit
    refine ⟨.new rules places id, ?_, rfl⟩
    simp [Id.Measured, Id.under, ← hunit, NamingCache.new]
  | some cache =>
    rw [hfind] at hunit
    refine ⟨h.faithful cache (List.mem_of_find?_eq_some hfind), ?_, ?_⟩
    · simp [Id.Measured, Id.under, ← hunit]
    · have hidentity : cache.id.toIdentity = id.toIdentity := by
        simpa using List.find?_some hfind
      exact hidentity

theorem Knows.store (h : shelf.Knows rules places known) {cache : NamingCache Fragments}
    {identity : Identity} {unit : Option String}
    (hcache : cache.Serves rules places (fun _ => unit) identity) :
    (shelf.store cache).Knows rules places fun other =>
      if other = identity then some unit else known other := by
  constructor
  case faithful =>
    intro other hother
    rcases mem_store hother with rfl | hmem
    · exact hcache.faithful
    · exact h.faithful other hmem
  case units =>
    intro other
    rw [unit?_store, hcache.identity, show cache.id.baseUnit = unit from hcache.measured, h.units]

theorem Knows.retain (h : shelf.Knows rules places known) (live : List Identity) :
    (shelf.retain live).Knows rules places fun identity =>
      if identity ∈ live then known identity else none := by
  constructor
  case faithful => exact fun cache hcache => h.faithful cache (List.mem_filter.1 hcache).1
  case units =>
    intro identity
    rw [unit?_retain, h.units]

end Shelf

/-! ## Calls -/

namespace Backend

variable {Record Fragments : Type} {keeps : Kind → Snapshot → Bool} {calls : List Call}

/-- The convention is the one of its number. -/
def Call.At (places : Nat → Convention) : Call → Prop
  | write _ _ _ installed => installed.At places
  | retain _ => True

/-- The base units that identities are left with by a call. A write leaves its own for an identity
that has none, if it keeps a cache, and an identity that is not live loses its unit. -/
def Call.leave (keeps : Kind → Snapshot → Bool) (known : Identity → Option (Option String)) :
    Call → Identity → Option (Option String)
  | write id form snapshot _ => fun identity =>
    if identity = id.toIdentity ∧ keeps form snapshot then some (id.under (known identity)).baseUnit
    else known identity
  | retain live => fun identity => if identity ∈ live then known identity else none

/-- The base unit that some calls have left an identity with, if any. -/
def unitOf (keeps : Kind → Snapshot → Bool) (calls : List Call) : Identity → Option (Option String) :=
  calls.foldl (Call.leave keeps) fun _ => none

theorem unitOf_concat (keeps : Kind → Snapshot → Bool) (calls : List Call) (last : Call) :
    unitOf keeps (calls ++ [last]) = last.leave keeps (unitOf keeps calls) :=
  List.foldl_concat ..

/-- An id has been written, and its identity has not been missing since. -/
def WrittenSince (keeps : Kind → Snapshot → Bool) (calls : List Call) (id : Id) : Prop :=
  ∃ front form snapshot installed back,
    calls = front ++ .write id form snapshot installed :: back ∧ keeps form snapshot = true ∧
      ∀ live, .retain live ∈ back → id.toIdentity ∈ live

theorem WrittenSince.concat {id : Id} (h : WrittenSince keeps calls id) {last : Call}
    (hlast : ∀ live, last = .retain live → id.toIdentity ∈ live) :
    WrittenSince keeps (calls ++ [last]) id := by
  obtain ⟨front, form, snapshot, installed, back, rfl, hkeeps, hback⟩ := h
  refine ⟨front, form, snapshot, installed, back ++ [last], by simp, hkeeps, ?_⟩
  intro live hlive
  rcases List.mem_append.1 hlive with hlive | hlive
  · exact hback live hlive
  · exact hlast live (List.mem_singleton.1 hlive).symm

theorem unitOf_eq_some {identity : Identity} {unit : Option String}
    (h : unitOf keeps calls identity = some unit) :
    ∃ id, id.toIdentity = identity ∧ id.baseUnit = unit ∧ WrittenSince keeps calls id := by
  -- the last call decides, so the induction is from the end
  induction calls using List.reverseRecOn generalizing unit with
  | nil => cases h
  | append_singleton calls last ih =>
    rw [unitOf_concat] at h
    cases last with
    | retain live =>
      by_cases hlive : identity ∈ live
      · obtain ⟨id, rfl, hunit, hsince⟩ := ih ((if_pos hlive).symm.trans h)
        refine ⟨id, rfl, hunit, hsince.concat ?_⟩
        rintro _ ⟨⟩
        exact hlive
      · cases (if_neg hlive).symm.trans h
    | write id form snapshot installed =>
      by_cases hid : identity = id.toIdentity ∧ keeps form snapshot = true
      · have hunit := (if_pos hid).symm.trans h
        obtain ⟨rfl, hkeeps⟩ := hid
        cases hknown : unitOf keeps calls id.toIdentity with
        | none =>
          rw [hknown] at hunit
          exact ⟨id, rfl, Option.some.inj hunit,
            calls, form, snapshot, installed, [], rfl, hkeeps, by simp⟩
        | some first =>
          rw [hknown] at hunit
          obtain ⟨other, hother, hfirst, hsince⟩ := ih hknown
          exact ⟨other, hother, hfirst.trans (Option.some.inj hunit),
            hsince.concat fun _ hlast => by cases hlast⟩
      · obtain ⟨other, hother, hunit, hsince⟩ := ih ((if_neg hid).symm.trans h)
        exact ⟨other, hother, hunit, hsince.concat fun _ hlast => by cases hlast⟩

/-- If only the unit of an id has been written since its identity was missing, that is the unit. -/
theorem under_unitOf {id : Id} (h : ∀ other : Id, other.toIdentity = id.toIdentity →
    WrittenSince keeps calls other → other.baseUnit = id.baseUnit) :
    id.under (unitOf keeps calls id.toIdentity) = id := by
  cases hknown : unitOf keeps calls id.toIdentity with
  | none => rfl
  | some unit =>
    obtain ⟨other, hother, rfl, hsince⟩ := unitOf_eq_some hknown
    simp [Id.under, h other hother hsince]

/-- The laws of a backend that keeps its caches on a shelf. A write that keeps a cache puts the
cache of its identity back; it has written any id that the cache serves. -/
structure Shelves (backend : Backend Record (Shelf Fragments)) (rules : RenderRules Fragments)
    (rule : OutputRule Record) (keeps : Kind → Snapshot → Bool) : Prop where
  fresh : backend.fresh = []
  retain : backend.retain = Shelf.retain
  kept : ∀ {places units shelf id other form snapshot installed}, keeps form snapshot = true →
    (shelf.cacheFor id).Serves rules places units other.toIdentity → other.Measured units →
    installed.At places → ∃ cache : NamingCache Fragments,
      cache.Serves rules places units other.toIdentity ∧
      (backend.write shelf id form snapshot installed).cache = shelf.store cache ∧
      (backend.write shelf id form snapshot installed).records =
        (rule other form snapshot installed.convention).1
  omitted : ∀ {form snapshot}, keeps form snapshot = false → ∀ shelf id other installed,
    (backend.write shelf id form snapshot installed).cache = shelf ∧
      (backend.write shelf id form snapshot installed).records =
        (rule other form snapshot installed.convention).1

variable {backend : Backend Record (Shelf Fragments)} {rules : RenderRules Fragments}
  {rule : OutputRule Record} {places : Nat → Convention} {shelf : Shelf Fragments}
  {known : Identity → Option (Option String)}

theorem Shelves.records (h : backend.Shelves rules rule keeps)
    (hshelf : shelf.Knows rules places known) {installed : Installed}
    (hplace : installed.At places) (id : Id) (form : Kind) (snapshot : Snapshot) :
    (backend.write shelf id form snapshot installed).records =
      (rule (id.under (known id.toIdentity)) form snapshot installed.convention).1 := by
  cases hkeeps : keeps form snapshot with
  | true =>
    obtain ⟨-, -, -, hrecords⟩ :=
      h.kept hkeeps (hshelf.cacheFor id) (id.measured_under _) hplace
    exact hrecords
  | false => exact (h.omitted hkeeps shelf id _ installed).2

/-- A call leaves the units known that it leaves the identities with. -/
theorem Shelves.next (h : backend.Shelves rules rule keeps)
    (hshelf : shelf.Knows rules places known) {call : Call} (hcall : call.At places) :
    (backend.next shelf call).Knows rules places (call.leave keeps known) := by
  cases call with
  | retain live =>
    have hnext : backend.next shelf (.retain live) = shelf.retain live :=
      congrFun (congrFun h.retain shelf) live
    rw [hnext]
    exact hshelf.retain live
  | write id form snapshot installed =>
    cases hkeeps : keeps form snapshot with
    | true =>
      obtain ⟨cache, hcache, hnext, -⟩ :=
        h.kept hkeeps (hshelf.cacheFor id) (id.measured_under _) hcall
      have hleave : Call.leave keeps known (.write id form snapshot installed) = fun identity =>
          if identity = id.toIdentity then some (id.under (known id.toIdentity)).baseUnit
          else known identity := by
        funext identity
        by_cases hid : identity = id.toIdentity <;> simp [Call.leave, hkeeps, hid]
      rw [hleave, show backend.next shelf (.write id form snapshot installed) = _ from hnext]
      exact hshelf.store hcache
    | false =>
      have hleave : Call.leave keeps known (.write id form snapshot installed) = known := by
        funext identity
        simp [Call.leave, hkeeps]
      rw [hleave, show backend.next shelf (.write id form snapshot installed) = shelf from
        (h.omitted hkeeps shelf id id installed).1]
      exact hshelf

theorem Shelves.after (h : backend.Shelves rules rule keeps)
    (hcalls : ∀ call ∈ calls, call.At places) :
    (backend.after calls).Knows rules places (unitOf keeps calls) := by
  have hfoldl : ∀ {shelf known}, Shelf.Knows rules places known shelf →
      (calls.foldl backend.next shelf).Knows rules places
        (calls.foldl (Call.leave keeps) known) := by
    induction calls with
    | nil => exact fun hshelf => hshelf
    | cons call rest ih =>
      intro shelf known hshelf
      obtain ⟨hcall, hrest⟩ := List.forall_mem_cons.1 hcalls
      exact ih hrest (h.next hshelf hcall)
  refine hfoldl ⟨?_, ?_⟩
  · simp [h.fresh]
  · simp [h.fresh, Shelf.unit?]

end Backend

/-! ## Runs -/

theorem Backend.Call.at_of_mem_callsOf {Record Cache World : Type} {p : Publisher Record Cache}
    {r : Registry World} {places : Nat → Convention} (h : (p.conventionFor r).At places)
    {shots : List (Shot Record)} {call : Backend.Call} (hcall : call ∈ p.callsOf r shots) :
    call.At places := by
  rcases List.mem_cons.1 hcall with rfl | hcall
  · trivial
  · obtain ⟨shot, -, hshot⟩ := List.mem_filterMap.1 hcall
    unfold Shot.call? at hshot
    obtain ⟨-, hshot⟩ := Option.ite_none_right_eq_some.1 hshot
    obtain ⟨m, -, rfl⟩ := Option.map_eq_some_iff.1 hshot
    exact h

namespace Service

variable {World Record Cache : Type}

/-- The calls of the backend that a step makes. -/
def callsOf (s : Service World Record Cache) : Step World → List Backend.Call
  | .publish look now runtime =>
    s.publisher.callsOf s.registry (s.publisher.iterate s.registry look now runtime).shots
  | _ => []

def calls (s : Service World Record Cache) : List (Step World) → List Backend.Call
  | [] => []
  | next :: rest => s.callsOf next ++ (s.step next).calls rest

theorem cache_step (s : Service World Record Cache) (next : Step World) :
    (s.step next).publisher.cache =
      (s.callsOf next).foldl s.publisher.backend.next s.publisher.cache := by
  cases next with
  | change c => rfl
  | answer position answer => exact (s.publisher.publisher_answered position answer).2.2
  | publish look now runtime => exact (s.publisher.calls_iterate s.registry look now runtime).1

theorem cache_run (s : Service World Record Cache) (steps : List (Step World)) :
    (s.run steps).publisher.cache =
      (s.calls steps).foldl s.publisher.backend.next s.publisher.cache := by
  induction steps generalizing s with
  | nil => rfl
  | cons next rest ih =>
    have hbackend : (s.step next).publisher.backend = s.publisher.backend :=
      (s.publisher_run [next]).1
    rw [calls, List.foldl_append, ← cache_step, ← hbackend]
    exact ih (s.step next)

/-- In a run that installs conventions of their numbers, the calls have such conventions. -/
theorem at_calls {places : Nat → Convention} {preferred : Installed}
    (hpreferred : preferred.At places) {s : Service World Record Cache}
    (hs : s.publisher.preferred = some preferred)
    (hexplicit : ∀ installed ∈ s.registry.explicit, installed.At places) {steps : List (Step World)}
    (hsteps : ∀ installed, .change (.act (.setConvention installed)) ∈ steps →
      installed.At places) : ∀ call ∈ s.calls steps, call.At places := by
  induction steps generalizing s with
  | nil => simp [calls]
  | cons next rest ih =>
    refine List.forall_mem_append.2 ⟨?_, ih ?_ ?_ ?_⟩
    · intro call hcall
      cases next with
      | change c => cases hcall
      | answer position answer => cases hcall
      | publish look now runtime =>
        exact Backend.Call.at_of_mem_callsOf
          (Publisher.at_conventionFor hs hpreferred hexplicit) hcall
    · exact (s.publisher_run [next]).2.2.trans hs
    · have hnext : ∀ installed ∈ (s.run [next]).registry.explicit, installed.At places :=
        explicit_run hexplicit fun installed hmem =>
          hsteps installed (List.mem_cons.2 (.inl (List.mem_singleton.1 hmem)))
      exact hnext
    · exact fun installed hmem => hsteps installed (List.mem_cons_of_mem _ hmem)

end Service

/-! ## Both backends and their publishers -/

theorem Statsd.shelves_backend (config : Statsd.Config) :
    (Statsd.backend config).Shelves (Statsd.renderRules config.flavor.rules)
      (Statsd.outputOf config.flavor.rules) fun _ _ => true where
  fresh := rfl
  retain := rfl
  kept := by
    intro places units shelf id other form snapshot installed _ hcache hother hplace
    obtain ⟨cache, hserves, hwrite⟩ :=
      Statsd.writeMeter_of_serves hcache hother hplace form snapshot
    exact ⟨cache, hserves, congrArg Prod.snd hwrite, congrArg Prod.fst hwrite⟩
  omitted := by simp

theorem NewRelic.shelves_backend (config : NewRelic.Config) :
    (NewRelic.backend config).Shelves NewRelic.renderRules (NewRelic.outputOf config)
      fun form snapshot => (NewRelic.attributes? .seconds form snapshot).isSome where
  fresh := rfl
  retain := rfl
  kept := by
    intro places units shelf id other form snapshot installed hkeeps hcache hother hplace
    obtain ⟨attributes, hattributes⟩ := Option.isSome_iff_exists.1 hkeeps
    obtain ⟨cache, hserves, hwrite⟩ :=
      NewRelic.writeMeter_of_serves hattributes config hcache hother hplace
    exact ⟨cache, hserves, congrArg Written.cache hwrite, congrArg Written.records hwrite⟩
  omitted := by
    intro form snapshot hkeeps shelf id other installed
    have hattributes := Option.not_isSome_iff_eq_none.1 (Bool.eq_false_iff.1 hkeeps)
    have hwrite := NewRelic.writeMeter_of_none hattributes config shelf id installed
    refine ⟨congrArg Written.cache hwrite, (congrArg Written.records hwrite).trans ?_⟩
    simp [NewRelic.outputOf, hattributes]

/-- In a publish after a run, each shot is written by a rule for the id of its meter under the unit
that the calls before have left its identity with. That is its own unit if no other has been written
since the identity was missing. -/
def Publisher.RendersUnder {World Record Fragments : Type} (p : Publisher Record (Shelf Fragments))
    (rule : OutputRule Record) (keeps : Kind → Snapshot → Bool) (r : Registry World)
    (steps : List (Service.Step World)) (look : Registry World → World) (now : UInt64)
    (runtime : Bool) : Prop :=
  let s := (Service.mk p r).run steps
  let installed := s.publisher.conventionFor s.registry
  let it := s.publisher.iterate s.registry look now runtime
  it.encoded.flatten = it.shots.flatMap Shot.written ∧
    ∀ k shot, it.shots[k]? = some shot →
      let calls := (Service.mk p r).calls steps ++
        s.publisher.callsOf s.registry (it.shots.take k)
      ∃ m, s.registry.meter? shot.handle = some m ∧
        let written := fun id => if shot.snapshot.hasFiniteValue then
          (rule id m.form shot.snapshot installed.convention).1 else []
        shot.written = written (m.id.under (Backend.unitOf keeps calls m.id.toIdentity)) ∧
          ((∀ id : Id, id.toIdentity = m.id.toIdentity →
            Backend.WrittenSince keeps calls id → id.baseUnit = m.id.baseUnit) →
            shot.written = written m.id)

/-- A publisher whose backend keeps a shelf renders like this in every run that installs conventions
of their numbers. -/
theorem Backend.Shelves.rendersUnder {World Record Fragments : Type}
    {p : Publisher Record (Shelf Fragments)} {rules : RenderRules Fragments}
    {rule : OutputRule Record} {keeps : Kind → Snapshot → Bool} {preferred : Installed}
    (h : p.backend.Shelves rules rule keeps) (hfresh : p.cache = p.backend.fresh)
    (hpreferred : p.preferred = some preferred) {places : Nat → Convention}
    (hfirst : preferred.At places) {r : Registry World}
    (hexplicit : ∀ installed ∈ r.explicit, installed.At places)
    {steps : List (Service.Step World)}
    (hsteps : ∀ installed, .change (.act (.setConvention installed)) ∈ steps →
      installed.At places) (look : Registry World → World) (now : UInt64) (runtime : Bool) :
    p.RendersUnder rule keeps r steps look now runtime := by
  unfold Publisher.RendersUnder
  intro s installed it
  have hcalls : ∀ call ∈ (Service.mk p r).calls steps, call.At places :=
    Service.at_calls hfirst hpreferred hexplicit hsteps
  have hplace : installed.At places := by
    refine Publisher.at_conventionFor ?_ hfirst (Service.explicit_run hexplicit hsteps)
    exact ((Service.mk p r).publisher_run steps).2.2.trans hpreferred
  refine ⟨s.publisher.flatten_encoded_progress s.registry look now runtime, ?_⟩
  intro k shot hshot calls
  obtain ⟨m, hm, hwritten⟩ :=
    (s.publisher.calls_iterate s.registry look now runtime).2 k shot hshot
  have hbackend : s.publisher.backend = p.backend := ((Service.mk p r).publisher_run steps).1
  -- the cache is that of all calls before
  have hcache : s.publisher.cacheAt s.registry (it.shots.take k) = p.backend.after calls := by
    unfold Publisher.cacheAt Backend.after
    rw [hbackend, (Service.mk p r).cache_run steps, List.foldl_append, ← hfresh]
  have hall : ∀ call ∈ calls, call.At places :=
    List.forall_mem_append.2 ⟨hcalls, fun call hcall => Backend.Call.at_of_mem_callsOf hplace hcall⟩
  have hrecords := h.records (h.after hall) hplace m.id m.form shot.snapshot
  rw [hcache, hbackend, hrecords] at hwritten
  refine ⟨m, hm, hwritten, fun hunit => hwritten.trans ?_⟩
  rw [Backend.under_unitOf hunit]

/-- Publishers to StatsD and New Relic name a meter with the unit that its identity was written with
first since a publish found it missing. So a meter that is registered anew is published under its own
unit if no meter with another one has been written under its identity since then. -/
theorem rendered_under_first_unit {World : Type} {places : Nat → Convention} {r : Registry World}
    (hexplicit : ∀ installed ∈ r.explicit, installed.At places)
    {steps : List (Service.Step World)}
    (hsteps : ∀ installed, .change (.act (.setConvention installed)) ∈ steps →
      installed.At places) (look : Registry World → World) (now : UInt64) (runtime : Bool) :
    (∀ config serial p, Statsd.publisher? config serial = .ok p →
      (∀ first ∈ p.preferred, first.At places) →
      p.RendersUnder (Statsd.outputOf config.flavor.rules) (fun _ _ => true)
        r steps look now runtime) ∧
      ∀ config serial p, NewRelic.publisher? config serial = .ok p →
        (∀ first ∈ p.preferred, first.At places) →
        p.RendersUnder (NewRelic.outputOf config)
          (fun form snapshot => (NewRelic.attributes? .seconds form snapshot).isSome)
          r steps look now runtime := by
  constructor
  · intro config serial p hp hat
    obtain ⟨hbackend, hpreferred, hcache⟩ := Publisher.of_new (Statsd.of_publisher? hp)
    have hshelves := Statsd.shelves_backend config
    rw [← hbackend] at hshelves hcache
    exact hshelves.rendersUnder hcache hpreferred (hat _ hpreferred) hexplicit hsteps look now
      runtime
  · intro config serial p hp hat
    obtain ⟨hbackend, hpreferred, hcache⟩ := Publisher.of_new (NewRelic.of_publisher? hp)
    have hshelves := NewRelic.shelves_backend config
    rw [← hbackend] at hshelves hcache
    exact hshelves.rendersUnder hcache hpreferred (hat _ hpreferred) hexplicit hsteps look now
      runtime

/-- A counter of bytes is published and removed, and the next publish finds it missing. Then a counter
of rows is registered under its identity, and is published as what it is. -/
theorem rendered_under_first_unit_rows :
    let byUnit := Convention.ofName "ByUnit" fun name _ unit => name ++ "." ++ unit.getD ""
    let places : Nat → Convention
      | 1 => .dot
      | 3 => NewRelic.convention
      | _ => byUnit
    let bytes : MeterRequest Unit := (MeterRequest.new "a" .counter).say (·.withBaseUnit "bytes")
    let rows : MeterRequest Unit := (MeterRequest.new "a" .counter).say (·.withBaseUnit "rows")
    let look : Registry Unit → Unit := fun _ => ()
    let steps : List (Service.Step Unit) :=
      [.change (.act (.setConvention ⟨2, byUnit⟩)), .change (.act (.register bytes rfl)),
        .publish look 0 true, .change (.act (.remove bytes.id.toIdentity)), .publish look 1 true,
        .change (.act (.register rows rfl))]
    let newRelic : NewRelic.Config := ⟨.default, "1", "key", "localhost", "Sample", false⟩
    (∀ next, .change (.act (.setConvention next)) ∈ steps → next.At places) ∧
      (∃ p, Statsd.publisher? .default 1 = .ok p ∧ (∀ first ∈ p.preferred, first.At places) ∧
        let s := (Service.mk p .empty).run steps
        let it := s.publisher.iterate s.registry look 2 true
        ∃ shot m, it.shots[0]? = some shot ∧ s.registry.meter? shot.handle = some m ∧
          m.id = rows.id ∧ shot.written = if shot.snapshot.hasFiniteValue then
            (Statsd.outputOf Statsd.Config.default.flavor.rules rows.id m.form shot.snapshot
              (s.publisher.conventionFor s.registry).convention).1 else []) ∧
      ∃ q, NewRelic.publisher? newRelic 3 = .ok q ∧ (∀ first ∈ q.preferred, first.At places) ∧
        let s := (Service.mk q .empty).run steps
        let it := s.publisher.iterate s.registry look 2 true
        it.encoded.flatten = it.shots.flatMap Shot.written := by
  obtain ⟨q, hq, hqpreferred⟩ : ∃ q,
      NewRelic.publisher? ⟨.default, "1", "key", "localhost", "Sample", false⟩ 3 = .ok q ∧
      q.preferred = some ⟨3, NewRelic.convention⟩ :=
    ⟨_, rfl, rfl⟩
  intro byUnit places bytes rows look steps newRelic
  let p : Publisher String (Shelf Statsd.Fragments) :=
    ⟨Statsd.backend .default, .default, some ⟨1, .dot⟩, [], Stats.start, []⟩
  let s := (Service.mk p .empty).run steps
  let it := s.publisher.iterate s.registry look 2 true
  have hhandles : it.shots.map Shot.handle = [1] := by decide +kernel +revert
  have hid : (s.registry.meter? 1).map Meter.id = some rows.id := by decide +kernel +revert
  have hunit : Backend.unitOf (fun _ _ => true)
      ((Service.mk p .empty).calls steps ++ s.publisher.callsOf s.registry (it.shots.take 0))
      rows.id.toIdentity = none := by
    decide +kernel +revert
  have hpreferred : ∀ first ∈ p.preferred, first.At places := by
    rintro _ ⟨⟩
    rfl
  have hqpreferred' : ∀ first ∈ q.preferred, first.At places := by
    rw [hqpreferred]
    rintro _ ⟨⟩
    rfl
  have hsteps : ∀ next, .change (.act (.setConvention next)) ∈ steps → next.At places := by
    intro next hnext
    obtain rfl : next = ⟨2, byUnit⟩ := by simpa [steps] using hnext
    rfl
  have hexplicit : ∀ installed ∈ (Registry.empty : Registry Unit).explicit,
      installed.At places := by
    simp [Registry.empty]
  obtain ⟨hstatsd, hnewRelic⟩ := rendered_under_first_unit hexplicit hsteps look 2 true
  obtain ⟨-, hshots⟩ := hstatsd .default 1 p rfl hpreferred
  obtain ⟨hencoded, -⟩ := hnewRelic newRelic 3 q hq hqpreferred'
  obtain ⟨shot, honly, hhandle⟩ := List.map_eq_singleton_iff.1 hhandles
  have hshot : it.shots[0]? = some shot := by
    rw [honly]
    rfl
  obtain ⟨m, hm, hwritten, -⟩ := hshots 0 shot hshot
  have hrows : m.id = rows.id := by
    rw [← hhandle, show s.registry.meter? shot.handle = some m from hm] at hid
    exact Option.some.inj hid
  rw [hrows, show Backend.unitOf _ _ rows.id.toIdentity = none from hunit] at hwritten
  exact ⟨hsteps, ⟨p, rfl, hpreferred, shot, m, hshot, hm, hrows, hwritten⟩,
    ⟨q, hq, hqpreferred', hencoded⟩⟩

/-- A counter of bytes is published and removed, and before the next publish a counter of rows is
registered under its identity. It is published as a counter of bytes. -/
theorem reregistered_under_old_unit :
    let byUnit := Convention.ofName "ByUnit" fun name _ unit => name ++ "." ++ unit.getD ""
    let bytes : MeterRequest Unit := (MeterRequest.new "a" .counter).say (·.withBaseUnit "bytes")
    let rows : MeterRequest Unit := (MeterRequest.new "a" .counter).say (·.withBaseUnit "rows")
    let look : Registry Unit → Unit := fun _ => ()
    let steps : List (Service.Step Unit) :=
      [.change (.act (.setConvention ⟨2, byUnit⟩)), .change (.act (.register bytes rfl)),
        .publish look 0 true, .change (.act (.remove bytes.id.toIdentity)),
        .change (.act (.register rows rfl))]
    ∃ p, Statsd.publisher? .default 1 = .ok p ∧
      let s := (Service.mk p .empty).run steps
      let it := s.publisher.iterate s.registry look 1 true
      let rule := (Statsd.outputOf Statsd.Config.default.flavor.rules).records
      s.registry.meters.map Meter.id = [rows.id] ∧
        it.shots.map Shot.written = [["a.bytes:0|c"]] ∧
        (it.shots.map fun shot =>
          (Shot.byRule rule s.registry ⟨2, byUnit⟩ shot.taken).written) = [["a.rows:0|c"]] := by
  refine ⟨_, rfl, ?_⟩
  decide +kernel

end Telemetry
