import Telemetry.Proofs.Registry.Soundness

/-!
# Courses of a registry

A run registers meters that are made for it. A course is more: whoever registers may also bring a
meter that was made elsewhere. This file says what a change can do to the identities that are
registered and to the filters, and shows that a registration of a registered identity is answered
with the meter that is there.

## Main definitions

- `Change` — a step of a run, or a registration that brings its own meter
- `Registry.course` — the registry after a list of changes
- `Registry.Throughout` — a condition on every change of a course
- `Registry.Formed` — what is registered has the form of its kind

## Main statements

- `Registry.change_cases` — all that a change can do to identities and filters
- `Registry.explicit_change` — the convention stays unless another one is installed
- `Registry.exists_meter_change` — meters stay behind their handles, and what they are
- `Registry.Formed.course` — honest changes keep the forms right

## Design notes

Filters of the application's own may change their minds between any two changes, since nothing is
known of what they depend on. `Registry.FiltersStay` says that all other filters stay as they are.
-/

namespace Telemetry

variable {World : Type}

/-- Filters of the application's own. -/
def Filter.IsOwn : Filter → Prop
  | own _ _ _ _ => True
  | _ => False

/-- What concerns the entries and filters of a registry. -/
inductive Change (World : Type) : Type 1
  | act (a : Action World)
  | offer (id : Id) (candidate : Candidate World)

/-- The id for which a change asks for a meter. -/
def Change.asks? : Change World → Option Id
  | act (.register request _) => some request.id
  | offer id _ => some id
  | _ => none

namespace Registry

def change (r : Registry World) : Change World → Registry World
  | .act a => r.step a
  | .offer id candidate => (r.getOrCreate id candidate).registry

def course (r : Registry World) (changes : List (Change World)) : Registry World :=
  changes.foldl change r

/-- Every change of a course satisfies a condition in the registry that it meets. -/
def Throughout (condition : Registry World → Change World → Prop) :
    Registry World → List (Change World) → Prop
  | _, [] => True
  | r, c :: rest => condition r c ∧ (r.change c).Throughout condition rest

/-- The identities that are registered. -/
def identities (r : Registry World) : List Identity := r.entries.map fun e => e.1.toIdentity

/-- Filters that are not of the application's own stay where they are. -/
def FiltersStay (r : Registry World) : Change World → Prop
  | .act (.refilter filters) =>
    ∀ (k : Nat) (f : Filter), r.filters[k]? = some f → f.IsOwn ∨ filters[k]? = some f
  | _ => True

/-- The form of the meter that a candidate stands for. -/
def formOf? (r : Registry World) : Candidate World → Option Kind
  | .fresh instrument => some instrument.form
  | .existing handle => (r.meter? handle).map Meter.form

/-- Whoever brings a meter brings one of the kind that is asked for. -/
def Honest (r : Registry World) : Change World → Prop
  | .offer id candidate => r.formOf? candidate = some id.kind
  | _ => True

/-- The meters that are registered have the forms of their kinds. -/
def Formed (r : Registry World) : Prop :=
  ∀ e ∈ r.entries, ∃ m, r.meter? e.2 = some m ∧ m.form = e.1.kind

theorem length_identities (r : Registry World) : r.identities.length = r.size :=
  List.length_map _

theorem find?_eq_none_iff {r : Registry World} {identity : Identity} :
    r.find? identity = none ↔ identity ∉ r.identities := by
  refine ⟨not_mem_of_find?_eq_none, fun h => ?_⟩
  cases hfind : r.find? identity with
  | none => rfl
  | some handle =>
    obtain ⟨id, hmem, rfl⟩ := mem_entries_of_find? hfind
    exact absurd (List.mem_map_of_mem hmem) h

/-! ## Registrations -/

/-- The registry in which a candidate for an id is there, and the handle that it then has. -/
def placed (r : Registry World) (mapped : Id) : Candidate World → Registry World × Nat
  | .fresh instrument => (r.asked mapped ⟨mapped, instrument⟩, r.store.length)
  | .existing handle => ({ r with filters := (verdict r.filters mapped).2 }, handle)

theorem entries_placed (r : Registry World) (mapped : Id) (candidate : Candidate World) :
    (r.placed mapped candidate).1.entries = r.entries := by
  cases candidate <;> rfl

theorem filters_placed (r : Registry World) (mapped : Id) (candidate : Candidate World) :
    (r.placed mapped candidate).1.filters = (verdict r.filters mapped).2 := by
  cases candidate <;> rfl

theorem meter?_placed_of_some {r : Registry World} {handle : Nat} {m : Meter World}
    (h : r.meter? handle = some m) (mapped : Id) (candidate : Candidate World) :
    (r.placed mapped candidate).1.meter? handle = some m := by
  cases candidate with
  | fresh instrument => exact meter?_asked_of_some h ..
  | existing other => exact h

theorem exists_meter_placed {r : Registry World} {candidate : Candidate World} {form : Kind}
    (h : r.formOf? candidate = some form) (mapped : Id) :
    ∃ m, (r.placed mapped candidate).1.meter? (r.placed mapped candidate).2 = some m ∧
      m.form = form := by
  cases candidate with
  | fresh instrument => exact ⟨_, meter?_asked .., Option.some.inj h⟩
  | existing handle =>
    obtain ⟨m, hm, hform⟩ := Option.map_eq_some_iff.1 h
    exact ⟨m, hm, hform⟩

/-- Whoever asks for a meter gets the one that is registered, an idle one if a filter denies it, or
else has the candidate entered. -/
theorem getOrCreate_candidate_cases (r : Registry World) (id : Id) (candidate : Candidate World) :
    let mapped := mapAll r.filters id
    let made := r.getOrCreate id candidate
    (∃ handle, r.find? mapped.toIdentity = some handle ∧ made = ⟨r, handle, .found⟩) ∨
      (r.find? mapped.toIdentity = none ∧ (verdict r.filters mapped).1 = .deny ∧
        made = ⟨r.asked mapped (.denied mapped), r.store.length, .denied⟩) ∨
      (r.find? mapped.toIdentity = none ∧ (verdict r.filters mapped).1 ≠ .deny ∧
        made = ⟨(r.placed mapped candidate).1.enter mapped (r.placed mapped candidate).2,
          (r.placed mapped candidate).2, .created⟩) := by
  cases candidate with
  | fresh instrument => exact r.getOrCreate_cases id instrument
  | existing other =>
    intro mapped made
    cases hfind : r.find? (mapAll r.filters id).toIdentity with
    | some handle => exact .inl ⟨handle, rfl, by simp [made, getOrCreate, hfind]⟩
    | none =>
      refine .inr ?_
      cases hverdict : verdict r.filters (mapAll r.filters id) with
      | mk reply filters =>
        cases reply with
        | deny =>
          refine .inl ⟨rfl, rfl, ?_⟩
          simp [made, mapped, getOrCreate, hfind, hverdict, asked, keep]
        | accept =>
          refine .inr ⟨rfl, by simp, ?_⟩
          simp [made, mapped, getOrCreate, hfind, hverdict, placed]
        | neutral =>
          refine .inr ⟨rfl, by simp, ?_⟩
          simp [made, mapped, getOrCreate, hfind, hverdict, placed]

/-- A stand-in for a meter of another form leaves entries and filters as they are. -/
theorem settings_register (r : Registry World) (id : Id) (instrument : Instrument World) :
    (r.register id instrument).registry.entries =
        (r.getOrCreate id (.fresh instrument)).registry.entries ∧
      (r.register id instrument).registry.filters =
        (r.getOrCreate id (.fresh instrument)).registry.filters := by
  unfold register
  simp only
  split
  · exact ⟨rfl, rfl⟩
  · split <;> exact ⟨rfl, rfl⟩

theorem getOrCreate_of_find {r : Registry World} {id : Id} {handle : Nat}
    (h : r.find? (mapAll r.filters id).toIdentity = some handle) (candidate : Candidate World) :
    r.getOrCreate id candidate = ⟨r, handle, .found⟩ := by
  simp [getOrCreate, h]

/-- Whoever is denied a meter is handed an idle one, and the filters have been asked. -/
theorem getOrCreate_of_denied {r : Registry World} {id : Id} {candidate : Candidate World}
    (h : (r.getOrCreate id candidate).outcome = .denied) :
    let mapped := mapAll r.filters id
    r.find? mapped.toIdentity = none ∧ (verdict r.filters mapped).1 = .deny ∧
      r.getOrCreate id candidate =
        ⟨r.asked mapped (.denied mapped), r.store.length, .denied⟩ := by
  rcases r.getOrCreate_candidate_cases id candidate with
    ⟨handle, -, hmade⟩ | hdenied | ⟨-, -, hmade⟩
  · cases h.symm.trans (congrArg Registration.outcome hmade)
  · exact hdenied
  · cases h.symm.trans (congrArg Registration.outcome hmade)

/-- A registration leaves the meters that were made before behind their handles. -/
theorem meter?_getOrCreate {r : Registry World} {handle : Nat} {m : Meter World}
    (h : r.meter? handle = some m) (id : Id) (candidate : Candidate World) :
    (r.getOrCreate id candidate).registry.meter? handle = some m := by
  rcases r.getOrCreate_candidate_cases id candidate with
    ⟨other, -, hmade⟩ | ⟨-, -, hmade⟩ | ⟨-, -, hmade⟩
  · rw [hmade]
    exact h
  · rw [hmade]
    exact meter?_asked_of_some h ..
  · rw [hmade]
    exact meter?_placed_of_some h ..

theorem meter?_keep_of_some {r : Registry World} {handle : Nat} {m : Meter World}
    (h : r.meter? handle = some m) (m' : Meter World) : (r.keep m').1.meter? handle = some m := by
  rw [← h]
  simp [meter?, keep, List.getElem?_append_left (meter?_lt h)]

theorem meter?_register {r : Registry World} {handle : Nat} {m : Meter World}
    (h : r.meter? handle = some m) (id : Id) (instrument : Instrument World) :
    (r.register id instrument).registry.meter? handle = some m := by
  have hmade := meter?_getOrCreate h id (.fresh instrument)
  unfold register
  simp only
  split
  · exact hmade
  · split
    · exact hmade
    · exact meter?_keep_of_some hmade _

/-! ## What a change does -/

/-- A registration of an id that is new: the filters have been asked, and it is registered unless
one of them has denied it. -/
structure Asked (r : Registry World) (id : Id) (r' : Registry World) : Prop where
  new : (mapAll r.filters id).toIdentity ∉ r.identities
  filters : r'.filters = (verdict r.filters (mapAll r.filters id)).2
  identities : r'.identities =
    if (verdict r.filters (mapAll r.filters id)).1 = .deny then r.identities
    else r.identities ++ [(mapAll r.filters id).toIdentity]

/-- Of some ids all filters are told that they are gone, and they are. -/
structure Dropped (r : Registry World) (gone : List Id) (r' : Registry World) : Prop where
  filters : r'.filters = gone.foldl notifyRemoved r.filters
  identities : r'.identities =
    r.identities.filter fun identity => identity ∉ gone.map Id.toIdentity

theorem asked_getOrCreate (r : Registry World) (id : Id) (candidate : Candidate World) :
    (r.getOrCreate id candidate).registry = r ∨
      r.Asked id (r.getOrCreate id candidate).registry := by
  rcases r.getOrCreate_candidate_cases id candidate with
    ⟨handle, -, hmade⟩ | ⟨hnone, hdeny, hmade⟩ | ⟨hnone, hdeny, hmade⟩
  · exact .inl (by rw [hmade])
  · refine .inr ⟨find?_eq_none_iff.1 hnone, by rw [hmade]; rfl, ?_⟩
    rw [hmade, if_pos hdeny]
    rfl
  · refine .inr ⟨find?_eq_none_iff.1 hnone, ?_, ?_⟩
    · rw [hmade]
      exact filters_placed ..
    · rw [hmade, if_neg hdeny]
      simp [identities, enter, entries_placed]

theorem dropped_remove (r : Registry World) (identity : Identity) :
    r.Dropped (r.idOf? identity).toList (r.remove identity).2 := by
  rw [remove_eq]
  refine ⟨rfl, ?_⟩
  rw [identities, identities, List.filter_map]
  refine congrArg (List.map _) (List.filter_congr fun e he => ?_)
  cases hid : r.idOf? identity with
  | none => simpa using toIdentity_ne_of_idOf?_eq_none hid he
  | some id =>
    rw [← toIdentity_of_idOf?_eq_some hid]
    by_cases hsame : e.1.toIdentity = id.toIdentity <;> simp [hsame]

theorem dropped_clear (r : Registry World) : r.Dropped (r.enumerated.map (·.1)) r.clear := by
  constructor
  · exact List.foldl_map.symm
  · symm
    simp [identities, clear, r.perm_enumerated.mem_iff]

/-- All that a change can do to the registered identities and to the filters. -/
theorem change_cases (r : Registry World) (c : Change World) :
    ((r.change c).identities = r.identities ∧
        ((r.change c).filters = r.filters ∨ (∃ f, (r.change c).filters = r.filters ++ [f]) ∨
          c = .act (.refilter (r.change c).filters))) ∨
      (∃ gone, r.Dropped gone (r.change c)) ∨
      ∃ id, c.asks? = some id ∧ r.Asked id (r.change c) := by
  cases c with
  | offer id candidate =>
    rcases r.asked_getOrCreate id candidate with hsame | hasked
    · exact .inl (by simp [change, hsame])
    · exact .inr (.inr ⟨id, rfl, hasked⟩)
  | act a =>
    cases a with
    | addFilter f => exact .inl ⟨rfl, .inr (.inl ⟨f, rfl⟩)⟩
    | refilter filters => exact .inl ⟨rfl, .inr (.inr rfl)⟩
    | setConvention installed => exact .inl ⟨rfl, .inl rfl⟩
    | register request fits =>
      obtain ⟨hentries, hfilters⟩ := r.settings_register request.id request.recipe.instrument
      have hidentities : (r.change (.act (.register request fits))).identities =
          (r.getOrCreate request.id (.fresh request.recipe.instrument)).registry.identities :=
        congrArg (List.map _) hentries
      rcases r.asked_getOrCreate request.id (.fresh request.recipe.instrument) with
        hsame | hasked
      · rw [hsame] at hidentities hfilters
        exact .inl ⟨hidentities, .inl hfilters⟩
      · exact .inr (.inr ⟨request.id, rfl, hasked.new, hfilters.trans hasked.filters,
          hidentities.trans hasked.identities⟩)
    | remove identity =>
      exact .inr (.inl ⟨_, r.dropped_remove identity⟩)
    | clear => exact .inr (.inl ⟨_, r.dropped_clear⟩)
    | record handle recording => exact .inl ⟨rfl, .inl rfl⟩
    | measure handle unit world now => exact .inl ⟨rfl, .inl rfl⟩
    | publish publisher look now runtime =>
      have hsame := sameMeters_publish r publisher look now runtime
      exact .inl ⟨congrArg (List.map _) hsame.entries, .inl hsame.filters⟩

/-- The convention of a registry stays unless another one is installed. -/
theorem explicit_change (r : Registry World) (c : Change World) :
    (r.change c).explicit = r.explicit ∨ ∃ installed,
      c = .act (.setConvention installed) ∧ (r.change c).explicit = some installed := by
  have hasked (id : Id) (candidate : Candidate World) :
      (r.getOrCreate id candidate).registry.explicit = r.explicit := by
    rcases r.getOrCreate_candidate_cases id candidate with
      ⟨handle, -, hmade⟩ | ⟨-, -, hmade⟩ | ⟨-, -, hmade⟩
    · rw [hmade]
    · rw [hmade]
      rfl
    · rw [hmade]
      cases candidate <;> rfl
  cases c with
  | offer id candidate => exact .inl (hasked id candidate)
  | act a =>
    cases a with
    | setConvention installed => exact .inr ⟨installed, rfl, rfl⟩
    | register request fits =>
      refine .inl (Eq.trans ?_ (hasked request.id (.fresh request.recipe.instrument)))
      change (r.register request.id request.recipe.instrument).registry.explicit = _
      unfold register
      simp only
      split
      · rfl
      · split <;> rfl
    | remove identity =>
      refine .inl ?_
      change (r.remove identity).2.explicit = _
      rw [remove_eq]
    | publish publisher look now runtime =>
      exact .inl (sameMeters_publish r publisher look now runtime).explicit
    | addFilter f => exact .inl rfl
    | refilter filters => exact .inl rfl
    | clear => exact .inl rfl
    | record handle recording => exact .inl rfl
    | measure handle unit world now => exact .inl rfl

/-- A meter stays what it is: no change touches its id, its form or whether it is idle. -/
theorem exists_meter_change {r : Registry World} {handle : Nat} {m : Meter World}
    (hm : r.meter? handle = some m) (c : Change World) :
    ∃ m', (r.change c).meter? handle = some m' ∧ m'.id = m.id ∧ m'.form = m.form ∧
      m'.isIdle = m.isIdle := by
  cases c with
  | offer id candidate => exact ⟨m, meter?_getOrCreate hm id candidate, rfl, rfl, rfl⟩
  | act a =>
    rcases r.step_cases a with ⟨-, hstore, -⟩ | ⟨request, fits, rfl⟩ | ⟨hsame, -⟩
    · exact ⟨m, (congrArg (·[handle]?) hstore).trans hm, rfl, rfl, rfl⟩
    · exact ⟨m, meter?_register hm request.id request.recipe.instrument, rfl, rfl, rfl⟩
    · exact hsame.exists_meter hm

/-! ## Forms -/

theorem Formed.of_subset {r r' : Registry World} (h : r.Formed)
    (hentries : ∀ e ∈ r'.entries, e ∈ r.entries)
    (hmeter : ∀ handle m, r.meter? handle = some m →
      ∃ m', r'.meter? handle = some m' ∧ m'.form = m.form) : r'.Formed := by
  intro e he
  obtain ⟨m, hm, hform⟩ := h e (hentries e he)
  obtain ⟨m', hm', hform'⟩ := hmeter _ _ hm
  exact ⟨m', hm', hform'.trans hform⟩

theorem Formed.exists_meter {r : Registry World} (h : r.Formed) {identity : Identity}
    {handle : Nat} (hfind : r.find? identity = some handle) :
    ∃ m, r.meter? handle = some m ∧ m.form = identity.kind := by
  obtain ⟨id, hmem, rfl⟩ := mem_entries_of_find? hfind
  exact h _ hmem

theorem Formed.getOrCreate {r : Registry World} (h : r.Formed) (id : Id)
    (candidate : Candidate World) (hform : r.formOf? candidate = some id.kind) :
    let made := r.getOrCreate id candidate
    made.registry.Formed ∧ ∃ m, made.registry.meter? made.handle = some m ∧ m.form = id.kind := by
  intro made
  rcases r.getOrCreate_candidate_cases id candidate with
    ⟨handle, hfind, hmade⟩ | ⟨-, -, hmade⟩ | ⟨-, -, hmade⟩
  · obtain ⟨m, hm, hmform⟩ := h.exists_meter hfind
    rw [show made = _ from hmade]
    exact ⟨h, m, hm, hmform⟩
  · rw [show made = _ from hmade]
    refine ⟨h.of_subset (fun _ he => he) fun _ m hm => ⟨m, meter?_asked_of_some hm .., rfl⟩, ?_⟩
    exact ⟨_, meter?_asked .., Instrument.form_idle _⟩
  · obtain ⟨m, hm, hmform⟩ := exists_meter_placed hform (mapAll r.filters id)
    rw [show made = _ from hmade]
    refine ⟨fun e he => ?_, m, hm, hmform⟩
    simp only [enter, entries_placed] at he
    rcases List.mem_append.1 he with he | he
    · obtain ⟨m', hm', hform'⟩ := h e he
      exact ⟨m', meter?_placed_of_some hm' .., hform'⟩
    · obtain rfl := List.mem_singleton.1 he
      exact ⟨m, hm, hmform⟩

/-- Where forms are right, no request is answered with a stand-in. -/
theorem Formed.register_eq {r : Registry World} (h : r.Formed) {id : Id}
    {instrument : Instrument World} (hform : instrument.form = id.kind) :
    r.register id instrument = r.getOrCreate id (.fresh instrument) := by
  obtain ⟨-, m, hm, hmform⟩ := h.getOrCreate id (.fresh instrument) (congrArg some hform)
  have hsame : m.form = instrument.form := hmform.trans hform.symm
  simp [register, hm, hsame]

theorem Formed.change {r : Registry World} (h : r.Formed) {c : Change World} (hc : r.Honest c) :
    (r.change c).Formed := by
  cases c with
  | offer id candidate => exact (h.getOrCreate id candidate hc).1
  | act a =>
    rcases r.step_cases a with ⟨-, hstore, hentries⟩ | ⟨request, fits, rfl⟩ | ⟨hsame, -⟩
    · refine h.of_subset (fun _ he => hentries.subset he) fun handle m hm => ⟨m, ?_, rfl⟩
      change (r.step a).meter? handle = some m
      rw [meter?, hstore]
      exact hm
    · have hform : request.recipe.instrument.form = request.id.kind :=
        (Recipe.form_instrument request.recipe).trans fits.symm
      change (r.register request.id request.recipe.instrument).registry.Formed
      rw [h.register_eq hform]
      exact (h.getOrCreate request.id (.fresh request.recipe.instrument) (congrArg some hform)).1
    · refine h.of_subset (fun _ he => hsame.entries ▸ he) fun handle m hm => ?_
      obtain ⟨m', hm', -, hform, -⟩ := hsame.exists_meter hm
      exact ⟨m', hm', hform⟩

theorem Formed.course {r : Registry World} (h : r.Formed) {changes : List (Change World)}
    (hchanges : r.Throughout Honest changes) : (r.course changes).Formed := by
  induction changes generalizing r with
  | nil => exact h
  | cons c rest ih => exact ih (h.change hchanges.1) hchanges.2

end Registry

end Telemetry
