import Telemetry.NewRelic.Backend
import Telemetry.Proofs.Publish.Calls
import Telemetry.Statsd.Backend

/-!
# Caches that never show

The StatsD backend and the New Relic backend keep what they have written of each identity. Whatever
was written, retained and published before, what they write next is what a backend writes that has
just been made. So the records of a publisher are settled by its snapshots and one convention: the
registry's own if it has one, else the one that the publisher prefers.

## Main definitions

- `Backend.Transparent` — no call of a backend shows what it was called for before
- `Publisher.Unswayed` — no publish of a publisher shows what was published before
- `Statsd.outputOf`, `NewRelic.outputOf` — what the two backends write, without a cache

## Main statements

- `caches_never_show` — both backends are transparent, and their publishers unswayed
-/

namespace Telemetry

section Following

variable {Record Fragments : Type}

/-- Whatever a backend was called for, it writes what a new one does; and right after it was told
which identities are live, it keeps nothing for any other. -/
structure Backend.Transparent (backend : Backend Record (Shelf Fragments)) : Prop where
  writes : ∀ (places : Nat → Convention) (units : Identity → Option String) (calls : List Call),
    (∀ call ∈ calls, call.Uniform places units) →
    ∀ id form snapshot installed, (Call.write id form snapshot installed).Uniform places units →
      (backend.write (backend.after calls) id form snapshot installed).output =
        (backend.write backend.fresh id form snapshot installed).output
  retains : ∀ (calls : List Call) (live : List Identity),
    ∀ cache ∈ backend.after (calls ++ [.retain live]), cache.id.toIdentity ∈ live

/-- Whatever became of a publisher and its registry, the next publish encodes the records that a new
backend writes for the snapshots, with the convention of the registry or else the preferred one. -/
def Publisher.Unswayed (p : Publisher Record (Shelf Fragments)) (preferred : Convention) : Prop :=
  ∀ (World : Type) (places : Nat → Convention) (units : Identity → Option String)
    (r : Registry World) (steps : List (Service.Step World)) (look : Registry World → World)
    (now : UInt64) (runtime : Bool),
    (∀ installed ∈ p.preferred, installed.At places) →
    (Service.mk p r).Uniform places units (steps ++ [.publish look now runtime]) →
    let s := (Service.mk p r).run steps
    let it := s.publisher.iterate s.registry look now runtime
    let convention := (s.registry.explicit.map Installed.convention).getD preferred
    let afresh := fun id form snapshot installed =>
      (p.backend.write p.backend.fresh id form snapshot installed).records
    (∀ shot ∈ it.shots, shot = Shot.byRule afresh s.registry ⟨0, convention⟩ shot.taken) ∧
      it.encoded.flatten = it.shots.flatMap Shot.written

variable {backend : Backend Record (Shelf Fragments)} {rule : OutputRule Record}
  {rules : RenderRules Fragments}

theorem Backend.Follows.transparent (h : backend.Follows rule (Shelf.Faithful rules))
    (hretain : backend.retain = Shelf.retain) : backend.Transparent := by
  constructor
  case writes =>
    intro places units calls hcalls id form snapshot installed hwrite
    rw [h.output (h.after hcalls) hwrite.1 hwrite.2, h.output_fresh]
  case retains =>
    intro calls live cache hcache
    rw [Backend.after, List.foldl_append] at hcache
    change cache ∈ backend.retain _ live at hcache
    rw [hretain] at hcache
    exact Shelf.toIdentity_mem_of_mem_retain hcache

theorem Shot.byRule_convention {World : Type} (rule : OutputRule Record) (r : Registry World)
    {installed other : Installed} (h : installed.convention = other.convention)
    (taken : Nat × Snapshot) :
    byRule rule.records r installed taken = byRule rule.records r other taken := by
  simp only [byRule, OutputRule.records, h]

theorem Backend.Follows.unswayed {p : Publisher Record (Shelf Fragments)}
    (h : p.backend.Follows rule (Shelf.Faithful rules)) {serial : Nat} {preferred : Convention}
    (hpreferred : p.preferred = some ⟨serial, preferred⟩) (hcache : p.cache = p.backend.fresh) :
    p.Unswayed preferred := by
  intro World places units r steps look now runtime hplaces hsteps s it convention afresh
  have hplace := hplaces _ hpreferred
  obtain ⟨hbefore, hlast, -⟩ := Service.uniform_append.1 hsteps
  have hstart : (Service.mk p r).Has p.backend ⟨serial, preferred⟩
      (Shelf.Faithful rules places units) :=
    ⟨rfl, hpreferred, hcache ▸ h.fresh places units⟩
  have hs := h.run hplace hstart hbefore
  have hat := Publisher.at_conventionFor hs.preferred hplace hlast.explicit
  obtain ⟨-, hshots, hencoded⟩ :=
    (hs.backend.symm ▸ h).iterate hs.cache hlast hat look now runtime
  refine ⟨fun shot hshot => ?_, hencoded⟩
  have hrule : afresh = rule.records := by
    funext id form snapshot installed
    exact congrArg Prod.fst (h.output_fresh id form snapshot installed)
  have hconvention : (s.publisher.conventionFor s.registry).convention =
      (⟨0, convention⟩ : Installed).convention :=
    Publisher.convention_conventionFor hs.preferred
  rw [hrule, ← Shot.byRule_convention rule s.registry hconvention]
  exact hshots shot hshot

end Following

/-! ## StatsD -/

namespace Statsd

/-- A line, without a cache. -/
def lineOf (flavor : FlavorRules) (id : Id) (convention : Convention) (amount : Float)
    (statistic : Option Statistic) (type : Char) : String :=
  let fragments := (renderRules flavor).render id convention
  let tags := tagBlock flavor statistic fragments.tags none
  String.ofList (compose flavor fragments.name tags amount type)

/-- The line of a bucket, without a cache. -/
def bucketLineOf (flavor : FlavorRules) (id : Id) (convention : Convention) (b : Bucket) :
    String :=
  let fragments := (renderRules flavor).render id convention
  let tags := tagBlock flavor none fragments.tags (some (boundTag flavor b.upperBound))
  String.ofList (compose flavor fragments.name tags b.count.toFloat 'g')

/-- The lines of a meter, without a cache. Nothing is ever logged. -/
def outputOf (flavor : FlavorRules) : OutputRule String := fun id form snapshot convention =>
  ((samples form snapshot).map (fun s =>
      lineOf flavor id convention s.1.value s.2 (typeOf s.1.statistic)) ++
    (cumulative (snapshot.histogram.getD [])).map (bucketLineOf flavor id convention), [])

theorem undescribed_renderRules (flavor : FlavorRules) : (renderRules flavor).Undescribed := by
  rintro ⟨identity, unit, _⟩ ⟨other, unit', _⟩ convention hidentity hunit
  cases hidentity
  cases hunit
  rfl

theorem writeAll_of {α : Type} (Good : NamingCache Fragments → Prop)
    {write : NamingCache Fragments → α → String × NamingCache Fragments} {afresh : α → String}
    (hwrite : ∀ cache item, Good cache →
      (write cache item).1 = afresh item ∧ Good (write cache item).2)
    {cache : NamingCache Fragments} (hcache : Good cache) (items : List α) :
    (writeAll write cache items).1 = items.map afresh ∧ Good (writeAll write cache items).2 := by
  induction items generalizing cache with
  | nil => exact ⟨rfl, hcache⟩
  | cons item rest ih =>
    obtain ⟨hline, hnext⟩ := hwrite cache item hcache
    obtain ⟨hlines, hlast⟩ := ih hnext
    exact ⟨congrArg₂ List.cons hline hlines, hlast⟩

section Serving

variable {flavor : FlavorRules} {places : Nat → Convention} {units : Identity → Option String}
  {cache : NamingCache Fragments} {id : Id} {installed : Installed}

theorem line_of_serves (h : cache.Serves (renderRules flavor) places units id.toIdentity)
    (hid : id.Measured units) (hplace : installed.At places) (amount : Float)
    (statistic : Option Statistic) (type : Char) :
    (line flavor cache installed amount statistic type).1 =
        lineOf flavor id installed.convention amount statistic type ∧
      (line flavor cache installed amount statistic type).2.Serves (renderRules flavor) places
        units id.toIdentity := by
  obtain ⟨hfragments, hrendered⟩ := h.render hid (undescribed_renderRules flavor) hplace
  obtain ⟨htext, hwritten⟩ :=
    hrendered.text hid (undescribed_renderRules flavor) hplace statistic
  refine ⟨?_, hwritten⟩
  simp only [line, lineOf, hfragments, htext]
  simp only [renderRules, String.toList_ofList]

theorem bucketLine_of_serves (h : cache.Serves (renderRules flavor) places units id.toIdentity)
    (hid : id.Measured units) (hplace : installed.At places) (b : Bucket) :
    (bucketLine flavor cache installed b.count.toFloat b.upperBound 'g').1 =
        bucketLineOf flavor id installed.convention b ∧
      (bucketLine flavor cache installed b.count.toFloat b.upperBound 'g').2.Serves
        (renderRules flavor) places units id.toIdentity := by
  obtain ⟨hfragments, hrendered⟩ := h.render hid (undescribed_renderRules flavor) hplace
  refine ⟨?_, hrendered⟩
  simp only [bucketLine, bucketLineOf, hfragments]

/-- A meter is written as any id that its cache serves is written without one, and the cache is put
back onto the shelf. -/
theorem writeMeter_of_serves {flavor : Flavor} {shelf : Shelf Fragments} {other : Id}
    (h : (shelf.cacheFor id).Serves (renderRules flavor.rules) places units other.toIdentity)
    (hother : other.Measured units) (hplace : installed.At places) (form : Kind)
    (snapshot : Snapshot) :
    ∃ cache : NamingCache Fragments,
      cache.Serves (renderRules flavor.rules) places units other.toIdentity ∧
      writeMeter flavor shelf id form snapshot installed =
        ((outputOf flavor.rules other form snapshot installed.convention).1,
          shelf.store cache) := by
  let serving := NamingCache.Serves (renderRules flavor.rules) places units other.toIdentity
  obtain ⟨hlines, hcache⟩ := writeAll_of serving
    (fun cache (s : Measurement × Option Statistic) hcache =>
      line_of_serves hcache hother hplace s.1.value s.2 (typeOf s.1.statistic))
    h (samples form snapshot)
  obtain ⟨hbuckets, hlast⟩ := writeAll_of serving
    (fun cache b hcache => bucketLine_of_serves hcache hother hplace b) hcache
    (cumulative (snapshot.histogram.getD []))
  exact ⟨_, hlast, Prod.ext (congrArg₂ List.append hlines hbuckets) rfl⟩

/-- On a faithful shelf a meter is written as without a cache. -/
theorem writeMeter_of_faithful {flavor : Flavor} {shelf : Shelf Fragments}
    (h : shelf.Faithful (renderRules flavor.rules) places units) (hid : id.Measured units)
    (hplace : installed.At places) (form : Kind) (snapshot : Snapshot) :
    (writeMeter flavor shelf id form snapshot installed).1 =
        (outputOf flavor.rules id form snapshot installed.convention).1 ∧
      (writeMeter flavor shelf id form snapshot installed).2.Faithful (renderRules flavor.rules)
        places units := by
  obtain ⟨cache, hcache, hwrite⟩ :=
    writeMeter_of_serves (h.cacheFor hid) hid hplace form snapshot
  rw [hwrite]
  exact ⟨rfl, h.store hcache⟩

end Serving

theorem follows_backend (config : Config) :
    (backend config).Follows (outputOf config.flavor.rules)
      (Shelf.Faithful (renderRules config.flavor.rules)) where
  fresh _ _ := by simp [Shelf.Faithful, backend]
  output h hid hplace form snapshot :=
    congrArg (·, []) (writeMeter_of_faithful h hid hplace form snapshot).1
  write h hid hplace form snapshot := (writeMeter_of_faithful h hid hplace form snapshot).2
  retain h live := Shelf.Faithful.retain h live

end Statsd

/-! ## New Relic -/

namespace NewRelic

/-- The event of a meter, without a cache, or the note that it has none. -/
def outputOf (config : Config) : OutputRule Json.Object := fun id form snapshot convention =>
  match attributes? .seconds form snapshot with
  | none => ([], [.eventOmitted id])
  | some attributes =>
    ([event (sharedType config) (renderRules.render id convention) attributes], [])

theorem undescribed_renderRules : renderRules.Undescribed := by
  rintro ⟨identity, unit, _⟩ ⟨other, unit', _⟩ convention hidentity hunit
  cases hidentity
  cases hunit
  rfl

section Serving

variable {places : Nat → Convention} {units : Identity → Option String} {shelf : Shelf Fragments}
  {id : Id} {installed : Installed} {form : Kind} {snapshot : Snapshot}

theorem writeMeter_of_none (h : attributes? .seconds form snapshot = none) (config : Config)
    (shelf : Shelf Fragments) (id : Id) (installed : Installed) :
    writeMeter config shelf id form snapshot installed = ⟨[], shelf, [.eventOmitted id]⟩ := by
  simp [writeMeter, h]

/-- A meter with attributes is written as any id that its cache serves is written without one, and
the cache is put back onto the shelf. -/
theorem writeMeter_of_serves {attributes : List (String × Json.Value)}
    (hattributes : attributes? .seconds form snapshot = some attributes) (config : Config)
    {other : Id} (h : (shelf.cacheFor id).Serves renderRules places units other.toIdentity)
    (hother : other.Measured units) (hplace : installed.At places) :
    ∃ cache : NamingCache Fragments, cache.Serves renderRules places units other.toIdentity ∧
      writeMeter config shelf id form snapshot installed =
        ⟨(outputOf config other form snapshot installed.convention).1, shelf.store cache, []⟩ := by
  obtain ⟨hfragments, hrendered⟩ := h.render hother undescribed_renderRules hplace
  refine ⟨_, hrendered, ?_⟩
  simp [writeMeter, outputOf, hattributes, hfragments]

/-- On a faithful shelf a meter is written as without a cache. -/
theorem writeMeter_of_faithful (config : Config) (h : shelf.Faithful renderRules places units)
    (hid : id.Measured units) (hplace : installed.At places) (form : Kind) (snapshot : Snapshot) :
    (writeMeter config shelf id form snapshot installed).output =
        outputOf config id form snapshot installed.convention ∧
      (writeMeter config shelf id form snapshot installed).cache.Faithful renderRules places
        units := by
  cases hattributes : attributes? .seconds form snapshot with
  | none =>
    rw [writeMeter_of_none hattributes]
    exact ⟨by simp [Written.output, outputOf, hattributes], h⟩
  | some attributes =>
    obtain ⟨cache, hcache, hwrite⟩ :=
      writeMeter_of_serves hattributes config (h.cacheFor hid) hid hplace
    rw [hwrite]
    exact ⟨by simp [Written.output, outputOf, hattributes], h.store hcache⟩

end Serving

theorem follows_backend (config : Config) :
    (backend config).Follows (outputOf config) (Shelf.Faithful renderRules) where
  fresh _ _ := by simp [Shelf.Faithful, backend]
  output h hid hplace form snapshot := (writeMeter_of_faithful config h hid hplace form snapshot).1
  write h hid hplace form snapshot := (writeMeter_of_faithful config h hid hplace form snapshot).2
  retain h live := Shelf.Faithful.retain h live

end NewRelic

/-! ## Both backends and their publishers -/

theorem Publisher.of_new {Record Cache : Type} {backend : Backend Record Cache}
    {config : StepConfig} {serial : Nat} {p : Publisher Record Cache}
    (h : new backend config serial = .ok p) :
    p.backend = backend ∧ p.preferred = backend.preferred.map (⟨serial, ·⟩) ∧
      p.cache = backend.fresh := by
  unfold new at h
  cases hvalidate : config.validate with
  | error e => simp [hvalidate, bind, Except.bind] at h
  | ok _ =>
    simp only [hvalidate, bind, Except.bind, pure, Except.pure, Except.ok.injEq] at h
    subst h
    exact ⟨rfl, rfl, rfl⟩

theorem Statsd.of_publisher? {config : Config} {serial : Nat}
    {p : Publisher String (Shelf Fragments)} (h : publisher? config serial = .ok p) :
    Publisher.new (backend config) config.step serial = .ok p := by
  unfold publisher? backend? at h
  cases hvalidate : config.validate with
  | error e => simp [hvalidate, bind, Except.bind] at h
  | ok _ => simpa [hvalidate, bind, Except.bind, pure, Except.pure] using h

theorem NewRelic.of_publisher? {config : Config} {serial : Nat}
    {p : Publisher Json.Object (Shelf Fragments)} (h : publisher? config serial = .ok p) :
    Publisher.new (backend config) config.cappedStep serial = .ok p := by
  unfold publisher? backend? at h
  cases hvalidate : config.validate with
  | error e => simp [hvalidate, bind, Except.bind] at h
  | ok _ => simpa [hvalidate, bind, Except.bind, pure, Except.pure] using h

/-- Neither of the two backends ever shows what it was called for before, and neither does any of
their publishers show what was published before, by itself or by others. -/
theorem caches_never_show :
    (∀ config, (Statsd.backend config).Transparent) ∧
      (∀ config, (NewRelic.backend config).Transparent) ∧
      (∀ config serial p, Statsd.publisher? config serial = .ok p →
        p.Unswayed config.flavor.convention) ∧
      ∀ config serial p, NewRelic.publisher? config serial = .ok p →
        p.Unswayed NewRelic.convention := by
  refine ⟨?_, ?_, ?_, ?_⟩
  · exact fun config => (Statsd.follows_backend config).transparent rfl
  · exact fun config => (NewRelic.follows_backend config).transparent rfl
  · intro config serial p hp
    obtain ⟨hbackend, hpreferred, hcache⟩ := Publisher.of_new (Statsd.of_publisher? hp)
    have hfollows := Statsd.follows_backend config
    rw [← hbackend] at hfollows hcache
    exact hfollows.unswayed hpreferred hcache
  · intro config serial p hp
    obtain ⟨hbackend, hpreferred, hcache⟩ := Publisher.of_new (NewRelic.of_publisher? hp)
    have hfollows := NewRelic.follows_backend config
    rw [← hbackend] at hfollows hcache
    exact hfollows.unswayed hpreferred hcache

/-- A counter is written with one convention and then with another. It is published, its registry
gets a convention of its own, and it is published again. -/
theorem caches_never_show_switched :
    let id := Id.new "http.requests" .counter
    let places : Nat → Convention
      | 1 => .dot
      | 2 => NewRelic.convention
      | _ => .slashes
    let units : Identity → Option String := fun _ => none
    let snapshot : Snapshot := ⟨[⟨.count, 3⟩], none⟩
    let calls : List Backend.Call :=
      [.write id .counter snapshot ⟨1, .dot⟩, .write id .counter snapshot ⟨3, .slashes⟩]
    let r : Registry Unit := ⟨[⟨id, .counter (some .start)⟩], [(id, 0)], [], none, .asEntered⟩
    let look : Registry Unit → Unit := fun _ => ()
    let steps : List (Service.Step Unit) :=
      [.publish look 0 true, .change (.act (.setConvention ⟨3, .slashes⟩))]
    let statsd := Statsd.Config.default
    let newRelic : NewRelic.Config := ⟨.default, "1", "key", "localhost", "Sample", false⟩
    (∀ call ∈ calls, call.Uniform places units) ∧
      ((Statsd.backend statsd).write ((Statsd.backend statsd).after calls) id .counter snapshot
          ⟨1, .dot⟩).output =
        ((Statsd.backend statsd).write [] id .counter snapshot ⟨1, .dot⟩).output ∧
      (∀ cache ∈ (NewRelic.backend newRelic).after (calls ++ [Backend.Call.retain []]),
        cache.id.toIdentity ∈ ([] : List Identity)) ∧
      (∃ p, Statsd.publisher? statsd 1 = .ok p ∧
        (Service.mk p r).Uniform places units (steps ++ [.publish look 1 true]) ∧
        let s := (Service.mk p r).run steps
        let it := s.publisher.iterate s.registry look 1 true
        it.encoded.flatten = it.shots.flatMap Shot.written) ∧
      ∃ p, NewRelic.publisher? newRelic 2 = .ok p ∧
        let s := (Service.mk p r).run steps
        let it := s.publisher.iterate s.registry look 1 true
        ∀ shot ∈ it.shots, shot = Shot.byRule
          (fun id form snapshot installed =>
            (NewRelic.writeMeter newRelic [] id form snapshot installed).records)
          s.registry ⟨0, .slashes⟩ shot.taken := by
  obtain ⟨p, hp, hpreferred⟩ : ∃ p, Statsd.publisher? .default 1 = .ok p ∧
      p.preferred = some ⟨1, .dot⟩ :=
    ⟨_, rfl, rfl⟩
  obtain ⟨q, hq, hqpreferred, hqbackend⟩ : ∃ q,
      NewRelic.publisher? ⟨.default, "1", "key", "localhost", "Sample", false⟩ 2 = .ok q ∧
      q.preferred = some ⟨2, NewRelic.convention⟩ ∧
      q.backend = NewRelic.backend ⟨.default, "1", "key", "localhost", "Sample", false⟩ :=
    ⟨_, rfl, rfl, rfl⟩
  intro id places units snapshot calls r look steps statsd newRelic
  obtain ⟨hstatsd, hnewRelic, hstatsdPublisher, hnewRelicPublisher⟩ := caches_never_show
  have hcalls : ∀ call ∈ calls, call.Uniform places units := by
    simp [calls, Backend.Call.Uniform, Id.Measured, Installed.At, id, places, units, Id.new]
  have hr : r.Uniform places units := by
    constructor
    case explicit => simp [r]
    case meters =>
      intro m hm
      obtain rfl : m = ⟨id, .counter (some .start)⟩ := List.mem_singleton.1 hm
      rfl
  have hsteps {Record Cache : Type} (p : Publisher Record Cache) :
      (Service.mk p r).Uniform places units (steps ++ [.publish look 1 true]) := by
    have hpublished := hr.of_sameMeters (Registry.sameMeters_publish r p look 0 true)
    exact ⟨hr, trivial, hpublished.setConvention rfl, trivial⟩
  have hwrite := (hstatsd statsd).writes places units calls hcalls id .counter snapshot ⟨1, .dot⟩
    ⟨rfl, rfl⟩
  have hretain := (hnewRelic newRelic).retains calls []
  have hlines := hstatsdPublisher statsd 1 p hp Unit places units r steps look 1 true
    (by rw [hpreferred]; rintro _ ⟨⟩; rfl) (hsteps p)
  have hevents := hnewRelicPublisher newRelic 2 q hq Unit places units r steps look 1 true
    (by rw [hqpreferred]; rintro _ ⟨⟩; rfl) (hsteps q)
  rw [hqbackend] at hevents
  exact ⟨hcalls, hwrite, hretain, ⟨p, hp, hsteps p, hlines.2⟩, ⟨q, hq, hevents.1⟩⟩

end Telemetry
