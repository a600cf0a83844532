import Telemetry.Proofs.Application.Idle
import Telemetry.Proofs.Registry.Cap

/-!
# What a registration leaves untouched

Filters are asked in order until one of them has replied, and the caps among those that were asked
may have remembered the identity. Asked about the same id again, such a chain stops at the same
place: a cap that let an identity through lets it through again, and one that denied it has
remembered nothing. So whoever repeats a registration learns the same and changes nothing more. A
registered meter is found before any filter is asked, and what a denied registration hands out is
idle.

## Main statements

- `Filter.accept_accept`, `verdict_verdict` — a filter and a chain, asked twice
- `Filter.map_of_denies` — a filter that denies leaves ids as they are
- `Registry.getOrCreate_addFilter` — a filter that comes later does not undo a registration
- `Registry.find?_getOrCreate`, `Registry.getOrCreate_again_of_denied` — a registration and its
  repetition
- `Registry.registration_frame` — registrations found, denied and repeated
-/

namespace Telemetry

variable {World : Type}

namespace Filter

theorem remembering_of_mem {seen : List Identity} {identity : Identity} (h : identity ∈ seen) :
    remembering seen identity = seen :=
  if_pos h

/-- A filter that is asked about an id once more says the same, and remembers nothing more. -/
theorem accept_accept {f : Filter} (hf : ¬ f.IsOwn) (id : Id) :
    (f.accept id).2.accept id = f.accept id := by
  cases f with
  | maxAllowedMeters n seen =>
    by_cases hroom : id.toIdentity ∈ seen ∨ seen.length < n
    · have hmem : id.toIdentity ∈ remembering seen id.toIdentity := mem_remembering.2 (.inr rfl)
      rw [accept_maxAllowedMeters, if_pos hroom, accept_maxAllowedMeters, if_pos (.inl hmem),
        remembering_of_mem hmem]
    · rw [accept_maxAllowedMeters, if_neg hroom, accept_maxAllowedMeters, if_neg hroom]
  | own outline map accept heard => exact absurd trivial hf
  | commonTags tags => rfl
  | ignoreTags keys => rfl
  | renameTag namePrefix fromKey toKey => rfl
  | replaceTagValues key replace exceptions => rfl
  | nameStartsWith namePrefix reply => rfl
  | denyUnless condition => rfl

/-- What a filter makes of ids does not depend on what it has been asked. -/
theorem map_accept (f : Filter) (id : Id) : (f.accept id).2.map = f.map := by
  cases f with
  | maxAllowedMeters n seen =>
    rw [accept_maxAllowedMeters]
    split <;> rfl
  | _ => rfl

theorem map_of_denies {f : Filter} (hf : ¬ f.IsOwn) {id : Id} (hdeny : (f.accept id).1 = .deny)
    (other : Id) : f.map other = other := by
  cases f with
  | nameStartsWith namePrefix reply => rfl
  | denyUnless condition => rfl
  | maxAllowedMeters n seen => rfl
  | own outline map accept heard => exact absurd trivial hf
  | commonTags tags => cases hdeny
  | ignoreTags keys => cases hdeny
  | renameTag namePrefix fromKey toKey => cases hdeny
  | replaceTagValues key replace exceptions => cases hdeny

end Filter

/-! ## Chains -/

/-- Asked once more, a chain stops where it has stopped before. -/
theorem verdict_verdict {filters : List Filter} (h : ∀ f ∈ filters, ¬ f.IsOwn) (id : Id) :
    verdict (verdict filters id).2 id = verdict filters id := by
  induction filters with
  | nil => rfl
  | cons f rest ih =>
    obtain ⟨hf, hrest⟩ := List.forall_mem_cons.1 h
    have hagain := Filter.accept_accept hf id
    rw [verdict]
    rcases haccept : f.accept id with ⟨reply, f'⟩
    rw [haccept] at hagain
    cases reply with
    | neutral => simp only [verdict, hagain, ih hrest]
    | accept => simp only [verdict, hagain]
    | deny => simp only [verdict, hagain]

theorem map_verdict (filters : List Filter) (id : Id) :
    (verdict filters id).2.map Filter.map = filters.map Filter.map := by
  induction filters with
  | nil => rfl
  | cons f rest ih =>
    have hmap := f.map_accept id
    rw [verdict]
    rcases haccept : f.accept id with ⟨reply, f'⟩
    rw [haccept] at hmap
    cases reply with
    | neutral => exact congrArg₂ List.cons hmap ih
    | accept => exact congrArg (· :: rest.map Filter.map) hmap
    | deny => exact congrArg (· :: rest.map Filter.map) hmap

theorem mapAll_eq (filters : List Filter) (id : Id) :
    mapAll filters id =
      ((filters.map Filter.map).foldl (fun id change => change id) id).withKind id.kind := by
  rw [mapAll, List.foldl_map]

/-- To be asked about an id does not change what a chain makes of ids. -/
theorem mapAll_verdict (filters : List Filter) (id other : Id) :
    mapAll (verdict filters id).2 other = mapAll filters other := by
  rw [mapAll_eq, mapAll_eq, map_verdict]

theorem mapAll_concat {f : Filter} (h : ∀ id, f.map id = id) (filters : List Filter) (id : Id) :
    mapAll (filters ++ [f]) id = mapAll filters id := by
  rw [mapAll, mapAll, List.foldl_append, List.foldl_cons, List.foldl_nil, h]

namespace Registry

/-- A registered meter is found, also if a filter has been added that would deny it now. -/
theorem getOrCreate_addFilter {r : Registry World} {id : Id} {handle : Nat}
    (hfind : r.find? (mapAll r.filters id).toIdentity = some handle) {f : Filter}
    (hf : ¬ f.IsOwn) (hdeny : (f.accept (mapAll r.filters id)).1 = .deny)
    (candidate : Candidate World) :
    (r.addFilter f).getOrCreate id candidate = ⟨r.addFilter f, handle, .found⟩ := by
  have hmapped : mapAll (r.addFilter f).filters id = mapAll r.filters id :=
    mapAll_concat (Filter.map_of_denies hf hdeny) r.filters id
  refine getOrCreate_of_find ?_ candidate
  rw [hmapped]
  exact hfind

theorem getOrCreate_of_verdict_deny {r : Registry World} {id : Id}
    (hnone : r.find? (mapAll r.filters id).toIdentity = none)
    (hdeny : (verdict r.filters (mapAll r.filters id)).1 = .deny) (candidate : Candidate World) :
    let mapped := mapAll r.filters id
    r.getOrCreate id candidate =
      ⟨r.asked mapped (.denied mapped), r.store.length, .denied⟩ := by
  intro mapped
  rcases r.getOrCreate_candidate_cases id candidate with
    ⟨handle, hfind, -⟩ | ⟨-, -, hmade⟩ | ⟨-, hpass, -⟩
  · exact absurd (hnone.symm.trans hfind) (Option.some_ne_none handle).symm
  · exact hmade
  · exact absurd hdeny hpass

/-- If the filters have been asked about an id before, asking them leaves them as they are. -/
theorem asked_of_verdict {r : Registry World} {mapped : Id}
    (h : (verdict r.filters mapped).2 = r.filters) (m : Meter World) :
    r.asked mapped m = (r.keep m).1 := by
  rw [asked, h]
  rfl

/-- A registration that was not denied has left its meter registered for whoever asks again. -/
theorem find?_getOrCreate {r : Registry World} {id : Id} {candidate : Candidate World}
    (h : (r.getOrCreate id candidate).outcome ≠ .denied) :
    let made := r.getOrCreate id candidate
    made.registry.find? (mapAll made.registry.filters id).toIdentity = some made.handle := by
  intro made
  rcases r.getOrCreate_candidate_cases id candidate with
    ⟨handle, hfind, hmade⟩ | ⟨-, -, hmade⟩ | ⟨hnone, -, hmade⟩
  · rw [show made = _ from hmade]
    exact hfind
  · exact absurd (congrArg Registration.outcome hmade) h
  · rw [show made = _ from hmade]
    set mapped := mapAll r.filters id
    have hmapped : mapAll (r.placed mapped candidate).1.filters id = mapped := by
      rw [filters_placed]
      exact mapAll_verdict r.filters mapped id
    have hnew : (r.placed mapped candidate).1.find? mapped.toIdentity = none := by
      rw [find?, entries_placed]
      exact hnone
    change ((r.placed mapped candidate).1.enter mapped _).find?
      (mapAll (r.placed mapped candidate).1.filters id).toIdentity = _
    rw [hmapped, find?_enter, hnew, if_pos rfl]
    rfl

/-- A registration that was denied is denied again, which leaves one more idle meter in the store
and nothing else. -/
theorem getOrCreate_again_of_denied {r : Registry World} (hfilters : ∀ f ∈ r.filters, ¬ f.IsOwn)
    {id : Id} {candidate : Candidate World}
    (h : (r.getOrCreate id candidate).outcome = .denied) (again : Candidate World) :
    let made := r.getOrCreate id candidate
    let next := made.registry.getOrCreate id again
    next.outcome = .denied ∧
      next.registry = (made.registry.keep (.denied (mapAll r.filters id))).1 := by
  intro made next
  obtain ⟨hnone, hdeny, hmade⟩ := getOrCreate_of_denied h
  set mapped := mapAll r.filters id
  set r' := r.asked mapped (.denied mapped)
  have hmapped : mapAll r'.filters id = mapped := mapAll_verdict r.filters mapped id
  have hverdict : verdict r'.filters mapped = verdict r.filters mapped :=
    verdict_verdict hfilters mapped
  have hnext : r'.getOrCreate id again =
      ⟨r'.asked mapped (.denied mapped), r'.store.length, .denied⟩ := by
    have hdeny' : (verdict r'.filters mapped).1 = .deny := hverdict ▸ hdeny
    rw [← hmapped] at hnone hdeny' ⊢
    exact getOrCreate_of_verdict_deny hnone hdeny' again
  have hasked : r'.asked mapped (.denied mapped) = (r'.keep (.denied mapped)).1 :=
    asked_of_verdict (congrArg Prod.snd hverdict) _
  rw [show next = r'.getOrCreate id again from congrArg (·.registry.getOrCreate id again) hmade,
    hnext, show made = ⟨r', r.store.length, .denied⟩ from hmade]
  exact ⟨rfl, hasked⟩

/-! ## The frame of a registration -/

theorem Formed.stored {r : Registry World} (h : r.Formed) : r.Stored := by
  intro handle hmem
  obtain ⟨e, he, rfl⟩ := mem_handles.1 hmem
  obtain ⟨m, hm, -⟩ := h e he
  exact meter?_lt hm

/-- The registered meters are the same if the enumerated entries are and no meter before is another
one. -/
theorem Formed.meters_eq {r r' : Registry World} (h : r.Formed)
    (henumerated : r'.enumerated = r.enumerated)
    (hmeter : ∀ {handle m}, r.meter? handle = some m → r'.meter? handle = some m) :
    r'.meters = r.meters := by
  rw [meters, meters, handles, handles, henumerated]
  refine List.filterMap_congr fun handle hmem => ?_
  obtain ⟨e, he, rfl⟩ := mem_handles.1 hmem
  obtain ⟨m, hm, -⟩ := h e he
  rw [hm, hmeter hm]

theorem entries_of_denied {r : Registry World} {id : Id} {candidate : Candidate World}
    (h : (r.getOrCreate id candidate).outcome = .denied) :
    (r.getOrCreate id candidate).registry.entries = r.entries := by
  rw [(getOrCreate_of_denied h).2.2]
  rfl

theorem enumerated_of_denied {r : Registry World} {id : Id} {candidate : Candidate World}
    (h : (r.getOrCreate id candidate).outcome = .denied) :
    (r.getOrCreate id candidate).registry.enumerated = r.enumerated := by
  rw [(getOrCreate_of_denied h).2.2]
  rfl

/-- In every registry whose filters are not of the application's own, whatever has happened to it, a
registration of a registered identity is answered with its meter and changes nothing, also if a
filter is added before that would deny it. A denied registration leaves entries and registered meters
as they are; what it hands out is not registered, and every run comes to the same snapshots, payloads
and meters without what is recorded in it. A registration that is repeated at once is answered with
the same meter, or denied again, and changes neither meters nor filters. Where the form is the one of
the kind, to register through the builder of a meter is such a registration. And an application that
has used the meter of a denied registration is what it was, but for the time that has passed and the
samples in its hands. -/
theorem registration_frame {enumeration : Enumeration} {changes : List (Change World)}
    (hhonest : (empty enumeration : Registry World).Throughout Honest changes)
    (hfilters : ∀ f ∈ ((empty enumeration : Registry World).course changes).filters, ¬ f.IsOwn) :
    let r := (empty enumeration : Registry World).course changes
    (∀ (id : Id) (candidate : Candidate World),
      let mapped := mapAll r.filters id
      let made := r.getOrCreate id candidate
      (∀ handle, r.find? mapped.toIdentity = some handle →
        made = ⟨r, handle, .found⟩ ∧
          ∀ f : Filter, ¬ f.IsOwn → (f.accept mapped).1 = .deny →
            (r.addFilter f).getOrCreate id candidate = ⟨r.addFilter f, handle, .found⟩) ∧
      (made.outcome = .denied →
        made.registry.entries = r.entries ∧ made.registry.meters = r.meters ∧
          made.handle ∉ made.registry.handles ∧
          ∀ (Record Cache : Type) (p : Publisher Record Cache) (trials : List (Service.Trial World)),
            (Service.mk p made.registry).transcript trials =
              (Service.mk p made.registry).transcript
                (trials.filter fun e => !e.recordsIn made.handle)) ∧
      (∀ again : Candidate World,
        let next := made.registry.getOrCreate id again
        (made.outcome ≠ .denied → next = ⟨made.registry, made.handle, .found⟩) ∧
          (made.outcome = .denied → next.outcome = .denied ∧
            next.registry.entries = made.registry.entries ∧
            next.registry.filters = made.registry.filters ∧
            next.registry.meters = made.registry.meters)) ∧
      ∀ instrument : Instrument World, instrument.form = id.kind →
        r.register id instrument = r.getOrCreate id (.fresh instrument) ∧
          (r.formOf? candidate = some id.kind →
            made.registry.register id instrument =
              made.registry.getOrCreate id (.fresh instrument))) ∧
    ∀ (app : Application) (name : Option String) (request : MeterRequest Telemetry.World)
      (holds : Option Nat), (app.registry.answer request).outcome = .denied →
      let registered := app.register name request holds
      ∀ deeds : List Deed, (∀ d ∈ deeds, d.Through registered.1) →
        ∀ config, ∃ timers tasks,
          deeds.foldl (fun app deed => (app.perform config deed).2) registered.2 =
            registered.2.holding (deeds.foldl Deed.pass registered.2.clock) timers tasks := by
  intro r
  have hformed : r.Formed := by
    have hnone : (empty enumeration : Registry World).Formed := fun e he => by cases he
    exact hnone.course hhonest
  refine ⟨fun id candidate => ?_, ?_⟩
  · intro mapped made
    refine ⟨fun handle hfind => ?_, fun hdenied => ?_, fun again => ?_, fun instrument hinst => ?_⟩
    · exact ⟨getOrCreate_of_find hfind candidate,
        fun f hf hdeny => getOrCreate_addFilter hfind hf hdeny candidate⟩
    · have henumerated : made.registry.enumerated = r.enumerated := enumerated_of_denied hdenied
      refine ⟨entries_of_denied hdenied,
        hformed.meters_eq henumerated fun hm => meter?_getOrCreate hm id candidate,
        fun hmem => ?_, fun Record Cache p trials => ?_⟩
      · -- the handle is new, and all that are registered have been there before
        have hhandle : made.handle = r.store.length :=
          congrArg Registration.handle (getOrCreate_of_denied hdenied).2.2
        rw [hhandle, handles, henumerated] at hmem
        exact Nat.lt_irrefl _ (hformed.stored _ hmem)
      · exact Service.transcript_of_idleAt (idleAt_getOrCreate hdenied) trials
    · refine ⟨fun hmeter => getOrCreate_of_find (find?_getOrCreate hmeter) again, fun hdenied => ?_⟩
      obtain ⟨houtcome, hnext⟩ := getOrCreate_again_of_denied hfilters hdenied again
      have hmade : made.registry.Formed :=
        hformed.of_subset (fun e he => entries_of_denied hdenied ▸ he)
          fun _ m hm => ⟨m, meter?_getOrCreate hm id candidate, rfl⟩
      rw [hnext]
      exact ⟨houtcome, rfl, rfl, hmade.meters_eq rfl fun hm => meter?_keep_of_some hm _⟩
    · exact ⟨hformed.register_eq hinst,
        fun hform => (hformed.getOrCreate id candidate hform).1.register_eq hinst⟩
  · intro app name request holds hdenied registered deeds hdeeds config
    obtain ⟨hhandle, hregistry⟩ := app.registry_register name request holds
    refine Application.foldl_perform_through ?_ hdeeds config
    rw [hregistry, hhandle]
    exact idleAt_register hdenied

/-- A cap of one slot lets one counter in and denies another, time and again. The first is found,
also behind a filter that would deny it, and what is counted in the second comes to nothing. -/
theorem registration_frame_counters :
    let changes : List (Change Unit) :=
      [.act (.addFilter (.cap 1)),
        .act (.register (.new "a" .counter) (MeterRequest.fits_new "a" .counter))]
    let r := (empty : Registry Unit).course changes
    let ask (r : Registry Unit) (name : String) :=
      r.getOrCreate (.new name .counter) (.fresh (.counter (some .start)))
    let p : Publisher String Unit :=
      ⟨Plain.backend ⟨.seconds, none, false⟩, ⟨true, Span.of 60 0, 1⟩, none, (), Stats.start, []⟩
    let count (handle : Nat) : Service.Trial Unit :=
      ⟨.change (.act (.record handle (.increment 1))), noFaults⟩
    (empty : Registry Unit).Throughout Honest changes ∧ (∀ f ∈ r.filters, ¬ f.IsOwn) ∧
      ask (r.addFilter (.nameStartsWith "a" .deny)) "a" =
        ⟨r.addFilter (.nameStartsWith "a" .deny), 0, .found⟩ ∧
      (ask r "b").outcome = .denied ∧ (ask r "b").registry.meters = r.meters ∧
      (ask (ask r "b").registry "b").outcome = .denied ∧
      (Service.mk p (ask r "b").registry).transcript [count 1, count 0, count 1] =
        (Service.mk p (ask r "b").registry).transcript [count 0] := by
  intro changes r ask p count
  have hhonest : (empty : Registry Unit).Throughout Honest changes := ⟨trivial, trivial, trivial⟩
  have hfilters : ∀ f ∈ r.filters, ¬ f.IsOwn := by
    intro f hf
    obtain rfl : f = .maxAllowedMeters 1 [(Id.new "a" .counter).toIdentity] :=
      List.mem_singleton.1 hf
    exact id
  have hframe := (registration_frame hhonest hfilters).1
  have hdenied : (ask r "b").outcome = .denied := by decide
  obtain ⟨hfound, -, -, -⟩ := hframe (.new "a" .counter) (.fresh (.counter (some .start)))
  obtain ⟨-, hframed, hagain, -⟩ := hframe (.new "b" .counter) (.fresh (.counter (some .start)))
  obtain ⟨-, hmeters, -, hruns⟩ := hframed hdenied
  refine ⟨hhonest, hfilters, (hfound 0 (by decide)).2 _ id (by decide), hdenied, hmeters,
    ((hagain _).2 hdenied).1, ?_⟩
  exact hruns _ _ p [count 1, count 0, count 1]

end Registry

end Telemetry
