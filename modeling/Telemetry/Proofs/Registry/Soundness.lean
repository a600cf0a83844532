import Mathlib.Data.List.Nodup
import Telemetry.Proofs.Registry.Run

/-!
# Registries hand out the right meters

Under every identity at most one meter is registered, and it is a working one that carries the id of
its entry and has the form of its kind. No filter can break this, whatever it makes of an id: the
kind that was asked for is put back behind the last filter. So whoever registers a meter is never
handed one of another form, and shares the meter of the identity as long as it is registered.

## Main definitions

- `Registry.Sound` — what holds of a registry at every moment of a run

## Main statements

- `Registry.sound_run` — every run from an empty registry is sound
- `Registry.Sound.answer_eq` — the arm for a meter of another form is never reached
- `Registry.run_registrations` — all registrations of a run
-/

namespace Telemetry.Registry

variable {World : Type}

/-- At most one entry for an identity, and behind each entry a working meter with its id and the
form of its kind. -/
structure Sound (r : Registry World) : Prop where
  nodup : (r.entries.map fun e => e.1.toIdentity).Nodup
  serves : ∀ e ∈ r.entries, ∃ m, r.meter? e.2 = some m ∧
    m.id = e.1 ∧ m.form = e.1.kind ∧ m.isIdle = false

/-! ## Entries -/

theorem mem_entries_of_find? {r : Registry World} {identity : Identity} {handle : Nat}
    (h : r.find? identity = some handle) :
    ∃ id : Id, (id, handle) ∈ r.entries ∧ id.toIdentity = identity := by
  obtain ⟨⟨id, handle'⟩, hfind, rfl⟩ := Option.map_eq_some_iff.1 h
  have hid : id.toIdentity = identity := by simpa using List.find?_some hfind
  exact ⟨id, List.mem_of_find?_eq_some hfind, hid⟩

theorem not_mem_of_find?_eq_none {r : Registry World} {identity : Identity}
    (h : r.find? identity = none) : identity ∉ r.entries.map fun e => e.1.toIdentity := by
  intro hmem
  obtain ⟨e, he, rfl⟩ := List.mem_map.1 hmem
  have hne := List.find?_eq_none.1 (Option.map_eq_none_iff.1 h) e he
  exact hne (beq_self_eq_true _)

/-- An entry that is added behind the others is found for its identity only. -/
theorem find?_enter (r : Registry World) (id : Id) (handle : Nat) (identity : Identity) :
    (r.enter id handle).find? identity =
      (r.find? identity).or (if id.toIdentity = identity then some handle else none) := by
  simp only [find?, enter, List.find?_append]
  cases r.entries.find? fun e => e.1.toIdentity == identity with
  | some e => rfl
  | none =>
    by_cases h : id.toIdentity = identity
    · simp [h]
    · simp [h]

theorem find?_remove_of_ne {r : Registry World} {identity other : Identity}
    (h : other ≠ identity) : (r.remove other).2.find? identity = r.find? identity :=
  congrArg (Option.map Prod.snd) (find?_entries_remove_of_ne h)

/-- The handle that is found for an identity belongs to the meter of its entry. -/
theorem Sound.exists_meter {r : Registry World} (h : r.Sound) {identity : Identity} {handle : Nat}
    (hfind : r.find? identity = some handle) :
    ∃ m, r.meter? handle = some m ∧ m.id.toIdentity = identity ∧ m.form = identity.kind ∧
      m.isIdle = false := by
  obtain ⟨id, hmem, rfl⟩ := mem_entries_of_find? hfind
  obtain ⟨m, hm, hid, hform, hidle⟩ := h.serves _ hmem
  exact ⟨m, hm, by rw [hid], hform, hidle⟩

theorem Sound.stored {r : Registry World} (h : r.Sound) : r.Stored := by
  intro handle hmem
  obtain ⟨e, he, rfl⟩ := mem_handles.1 hmem
  obtain ⟨m, hm, -⟩ := h.serves e he
  exact meter?_lt hm

/-- No meter is registered twice, so a removal leaves no entry with the handle. -/
theorem Sound.not_mem_handles_remove {r : Registry World} (h : r.Sound) {identity : Identity}
    {handle : Nat} (hfind : r.find? identity = some handle) :
    handle ∉ (r.remove identity).2.handles := by
  obtain ⟨id, hmem, rfl⟩ := mem_entries_of_find? hfind
  obtain ⟨m, hm, hid, -⟩ := h.serves _ hmem
  rw [remove_eq]
  intro hin
  obtain ⟨e, he, rfl⟩ := mem_handles.1 hin
  obtain ⟨hmem', hne⟩ := List.mem_filter.1 he
  obtain ⟨m', hm', hid', -⟩ := h.serves e hmem'
  -- both entries have the id of the one meter behind the handle
  obtain rfl : m' = m := Option.some.inj (hm'.symm.trans hm)
  have hsame : e.1 = id := hid'.symm.trans hid
  rw [hsame] at hne
  simp at hne

/-! ## What a registration does -/

/-- The kind that was asked for is put back behind the last filter. -/
theorem kind_mapAll (filters : List Filter) (id : Id) : (mapAll filters id).kind = id.kind := rfl

/-- The registry with a new meter in the store after its filters have been asked about an id. -/
def asked (r : Registry World) (id : Id) (m : Meter World) : Registry World :=
  { r with filters := (verdict r.filters id).2, store := r.store ++ [m] }

/-- Whoever asks for a meter gets the one that is registered, an idle one if a filter denies it, or
else a new one. -/
theorem getOrCreate_cases (r : Registry World) (id : Id) (instrument : Instrument World) :
    let mapped := mapAll r.filters id
    let made := r.getOrCreate id (.fresh instrument)
    (∃ handle, r.find? mapped.toIdentity = some handle ∧ made = ⟨r, handle, .found⟩) ∨
      (r.find? mapped.toIdentity = none ∧ (verdict r.filters mapped).1 = .deny ∧
        made = ⟨r.asked mapped (.denied mapped), r.store.length, .denied⟩) ∨
      (r.find? mapped.toIdentity = none ∧ (verdict r.filters mapped).1 ≠ .deny ∧
        made = ⟨(r.asked mapped ⟨mapped, instrument⟩).enter mapped r.store.length, r.store.length,
          .created⟩) := by
  intro mapped made
  cases hfind : r.find? (mapAll r.filters id).toIdentity with
  | some handle =>
    refine .inl ⟨handle, rfl, ?_⟩
    simp [made, getOrCreate, hfind]
  | none =>
    refine .inr ?_
    cases hverdict : verdict r.filters (mapAll r.filters id) with
    | mk reply filters =>
      cases reply with
      | deny =>
        refine .inl ⟨rfl, rfl, ?_⟩
        simp [made, mapped, getOrCreate, hfind, hverdict, asked, keep]
      | accept =>
        refine .inr ⟨rfl, by simp, ?_⟩
        simp [made, mapped, getOrCreate, hfind, hverdict, asked, keep, enter]
      | neutral =>
        refine .inr ⟨rfl, by simp, ?_⟩
        simp [made, mapped, getOrCreate, hfind, hverdict, asked, keep, enter]

/-- A registry in which the entries and the meters before are as they were serves them as before. -/
theorem Sound.of_store {r r' : Registry World} (h : r.Sound) (hentries : r'.entries = r.entries)
    (hmeter : ∀ handle m, r.meter? handle = some m → r'.meter? handle = some m) : r'.Sound := by
  refine ⟨hentries ▸ h.nodup, fun e he => ?_⟩
  obtain ⟨m, hm, hrest⟩ := h.serves e (hentries ▸ he)
  exact ⟨m, hmeter _ _ hm, hrest⟩

@[simp] theorem length_store_asked (r : Registry World) (id : Id) (m : Meter World) :
    (r.asked id m).store.length = r.store.length + 1 :=
  List.length_append

@[simp] theorem length_store_enter (r : Registry World) (id : Id) (handle : Nat) :
    (r.enter id handle).store.length = r.store.length :=
  rfl

theorem meter?_asked (r : Registry World) (id : Id) (m : Meter World) :
    (r.asked id m).meter? r.store.length = some m := by
  simp [meter?, asked]

theorem meter?_asked_of_some {r : Registry World} {handle : Nat} {m' : Meter World}
    (h : r.meter? handle = some m') (id : Id) (m : Meter World) :
    (r.asked id m).meter? handle = some m' := by
  have hlt := meter?_lt h
  rw [← h]
  simp [meter?, asked, List.getElem?_append_left hlt]

theorem Sound.asked {r : Registry World} (h : r.Sound) (id : Id) (m : Meter World) :
    (r.asked id m).Sound :=
  h.of_store rfl fun _ _ hm => meter?_asked_of_some hm id m

/-- Entering a working meter under a new identity keeps a registry sound. -/
theorem Sound.enter {r : Registry World} (h : r.Sound) {id : Id} {handle : Nat} {m : Meter World}
    (hnew : r.find? id.toIdentity = none) (hm : r.meter? handle = some m) (hid : m.id = id)
    (hform : m.form = id.kind) (hidle : m.isIdle = false) : (r.enter id handle).Sound := by
  constructor
  · have hfresh := not_mem_of_find?_eq_none hnew
    rw [Registry.enter, List.map_append, List.map_singleton, ← List.concat_eq_append]
    exact h.nodup.concat hfresh
  · intro e he
    rcases List.mem_append.1 he with he | he
    · exact h.serves e he
    · obtain rfl := List.mem_singleton.1 he
      exact ⟨m, hm, hid, hform, hidle⟩

/-- What a registration does and answers, in a sound registry. -/
theorem Sound.getOrCreate {r : Registry World} (h : r.Sound) {request : MeterRequest World}
    (hfits : request.Fits) :
    let made := r.getOrCreate request.id (.fresh request.recipe.instrument)
    made.registry.Sound ∧ ∃ m, made.registry.meter? made.handle = some m ∧
      m.form = request.recipe.kind := by
  intro made
  have hkind : (mapAll r.filters request.id).kind = request.recipe.kind :=
    (kind_mapAll r.filters request.id).trans hfits
  rcases r.getOrCreate_cases request.id request.recipe.instrument with
    ⟨handle, hfind, hmade⟩ | ⟨-, -, hmade⟩ | ⟨hfind, -, hmade⟩
  · obtain ⟨m, hm, -, hform, -⟩ := h.exists_meter hfind
    rw [show made = _ from hmade]
    exact ⟨h, m, hm, hform.trans hkind⟩
  · rw [show made = _ from hmade]
    refine ⟨h.asked .., _, meter?_asked .., ?_⟩
    exact (Instrument.form_idle _).trans hkind
  · -- the new meter has the form of its recipe, which the mapped id has kept
    have hform : request.recipe.instrument.form = request.recipe.kind :=
      Recipe.form_instrument request.recipe
    have hmeter := meter?_asked r (mapAll r.filters request.id)
      ⟨mapAll r.filters request.id, request.recipe.instrument⟩
    rw [show made = _ from hmade]
    exact ⟨(h.asked ..).enter hfind hmeter rfl (hform.trans hkind.symm)
      (Recipe.isIdle_instrument request.recipe), _, hmeter, hform⟩

/-- In a sound registry no request is answered with a stand-in for a meter of another form. -/
theorem Sound.answer_eq {r : Registry World} (h : r.Sound) {request : MeterRequest World}
    (hfits : request.Fits) :
    r.answer request = r.getOrCreate request.id (.fresh request.recipe.instrument) := by
  obtain ⟨-, m, hm, hform⟩ := h.getOrCreate hfits
  have hform' : m.form = request.recipe.instrument.form :=
    hform.trans (Recipe.form_instrument request.recipe).symm
  simp [answer, register, hm, hform']

/-! ## Runs -/

theorem sound_empty (enumeration : Enumeration) : (empty enumeration : Registry World).Sound :=
  ⟨List.nodup_nil, by simp [empty]⟩

theorem Sound.of_sameMeters {r r' : Registry World} (h : r.Sound) (hsame : r.SameMeters r') :
    r'.Sound := by
  refine ⟨hsame.entries ▸ h.nodup, fun e he => ?_⟩
  obtain ⟨m, hm, hid, hform, hidle⟩ := h.serves e (hsame.entries ▸ he)
  obtain ⟨m', hm', hid', hform', hidle'⟩ := hsame.exists_meter hm
  exact ⟨m', hm', hid'.trans hid, hform'.trans hform, hidle'.trans hidle⟩

theorem Sound.of_sublist {r r' : Registry World} (h : r.Sound)
    (hentries : r'.entries.Sublist r.entries) (hstore : r'.store = r.store) : r'.Sound := by
  refine ⟨h.nodup.sublist (hentries.map _), fun e he => ?_⟩
  obtain ⟨m, hm, hrest⟩ := h.serves e (hentries.subset he)
  exact ⟨m, by rw [meter?, hstore]; exact hm, hrest⟩

theorem Sound.step {r : Registry World} (h : r.Sound) (a : Action World) : (r.step a).Sound := by
  rcases r.step_cases a with ⟨-, hstore, hentries⟩ | ⟨request, fits, rfl⟩ | ⟨hsame, -⟩
  · exact h.of_sublist hentries hstore
  · change (r.answer request).registry.Sound
    rw [h.answer_eq fits]
    exact (h.getOrCreate fits).1
  · exact h.of_sameMeters hsame

theorem Sound.run {r : Registry World} (h : r.Sound) (actions : List (Action World)) :
    (r.run actions).Sound := by
  induction actions generalizing r with
  | nil => exact h
  | cons a rest ih => exact ih (h.step a)

/-- Every run from an empty registry is sound. -/
theorem sound_run (enumeration : Enumeration) (actions : List (Action World)) :
    (run (empty enumeration) actions).Sound :=
  (sound_empty enumeration).run actions

theorem find?_answer {r : Registry World} (h : r.Sound) {request : MeterRequest World}
    (hfits : request.Fits) {identity : Identity} {handle : Nat}
    (hfind : r.find? identity = some handle) :
    (r.answer request).registry.find? identity = some handle := by
  rw [h.answer_eq hfits]
  rcases r.getOrCreate_cases request.id request.recipe.instrument with
    ⟨other, -, hmade⟩ | ⟨-, -, hmade⟩ | ⟨-, -, hmade⟩
  · rw [hmade]
    exact hfind
  · rw [hmade]
    exact hfind
  · rw [hmade, find?_enter]
    exact Option.or_eq_some_iff.2 (.inl hfind)

theorem find?_step {r : Registry World} (h : r.Sound) {identity : Identity} {handle : Nat}
    (hfind : r.find? identity = some handle) {a : Action World} (ha : ¬ a.Unregisters identity) :
    (r.step a).find? identity = some handle := by
  cases a with
  | addFilter f => exact hfind
  | refilter filters => exact hfind
  | setConvention installed => exact hfind
  | register request fits => exact find?_answer h fits hfind
  | remove other => exact (find?_remove_of_ne ha).trans hfind
  | clear => exact absurd trivial ha
  | record handle recording => exact hfind
  | measure => exact hfind
  | publish publisher look now runtime =>
    exact ((sameMeters_publish r publisher look now runtime).find? identity).trans hfind

theorem find?_run {r : Registry World} (h : r.Sound) {identity : Identity} {handle : Nat}
    (hfind : r.find? identity = some handle) {actions : List (Action World)}
    (hactions : ∀ a ∈ actions, ¬ a.Unregisters identity) :
    (r.run actions).find? identity = some handle := by
  induction actions generalizing r with
  | nil => exact hfind
  | cons a rest ih =>
    exact ih (h.step a) (find?_step h hfind (hactions a List.mem_cons_self))
      fun b hb => hactions b (List.mem_cons_of_mem _ hb)

/-- A request for a registered identity is answered with the meter that is registered. -/
theorem Sound.answer_of_find {r : Registry World} (h : r.Sound) {request : MeterRequest World}
    (hfits : request.Fits) {handle : Nat}
    (hfind : r.find? (mapAll r.filters request.id).toIdentity = some handle) :
    r.answer request = ⟨r, handle, .found⟩ := by
  rw [h.answer_eq hfits]
  rcases r.getOrCreate_cases request.id request.recipe.instrument with
    ⟨other, hother, hmade⟩ | ⟨hnone, -⟩ | ⟨hnone, -⟩
  · rw [hmade, Option.some.inj (hother.symm.trans hfind)]
  · exact absurd (hnone.symm.trans hfind) (Option.some_ne_none handle).symm
  · exact absurd (hnone.symm.trans hfind) (Option.some_ne_none handle).symm

/-- A request is denied, or answered with the working meter that is then registered under the
identity that the filters have made of it. -/
theorem Sound.answer_cases {r : Registry World} (h : r.Sound) {request : MeterRequest World}
    (hfits : request.Fits) :
    let mapped := mapAll r.filters request.id
    let made := r.answer request
    (made.registry.find? mapped.toIdentity = some made.handle ∧
        ∃ m, made.registry.meter? made.handle = some m ∧ m.id.toIdentity = mapped.toIdentity ∧
          m.form = request.recipe.kind ∧ m.isIdle = false) ∨
      (r.find? mapped.toIdentity = none ∧ (verdict r.filters mapped).1 = .deny ∧
        made.registry.entries = r.entries ∧
        ∃ m, made.registry.meter? made.handle = some m ∧ m.id = mapped ∧
          m.form = request.recipe.kind ∧ m.isIdle = true) := by
  intro mapped made
  have hkind : mapped.kind = request.recipe.kind :=
    (kind_mapAll r.filters request.id).trans hfits
  have hsound : made.registry.Sound := h.step (.register request hfits)
  have registered (hfind : made.registry.find? mapped.toIdentity = some made.handle) :
      ∃ m, made.registry.meter? made.handle = some m ∧ m.id.toIdentity = mapped.toIdentity ∧
        m.form = request.recipe.kind ∧ m.isIdle = false := by
    obtain ⟨m, hm, hid, hform, hidle⟩ := hsound.exists_meter hfind
    exact ⟨m, hm, hid, hform.trans hkind, hidle⟩
  have hanswer : made = r.getOrCreate request.id (.fresh request.recipe.instrument) :=
    h.answer_eq hfits
  rcases r.getOrCreate_cases request.id request.recipe.instrument with
    ⟨handle, hfind, hmade⟩ | ⟨hnone, hdeny, hmade⟩ | ⟨hnone, -, hmade⟩
  · have hfound : made.registry.find? mapped.toIdentity = some made.handle := by
      rw [hanswer, hmade]
      exact hfind
    exact .inl ⟨hfound, registered hfound⟩
  · refine .inr ⟨hnone, hdeny, ?_⟩
    rw [hanswer, hmade]
    exact ⟨rfl, _, meter?_asked .., rfl, (Instrument.form_idle _).trans hkind,
      Instrument.isIdle_idle _⟩
  · have hfound : made.registry.find? mapped.toIdentity = some made.handle := by
      have hnone' : (r.asked mapped ⟨mapped, request.recipe.instrument⟩).find?
          mapped.toIdentity = none := hnone
      rw [hanswer, hmade, find?_enter, hnone', if_pos rfl]
      rfl
    exact .inl ⟨hfound, registered hfound⟩

/-- At every moment of a run the registry is sound. Hence every request is answered without a
stand-in, with the registered meter or with an idle one of its kind, and a registered meter is
shared by all who ask for its identity until it is removed or the registry is cleared. -/
theorem run_registrations (enumeration : Enumeration) (actions : List (Action World)) :
    let r := run (empty enumeration) actions
    r.Sound ∧
      (∀ request : MeterRequest World, request.Fits →
        let mapped := mapAll r.filters request.id
        let made := r.answer request
        made = r.getOrCreate request.id (.fresh request.recipe.instrument) ∧
          ((made.registry.find? mapped.toIdentity = some made.handle ∧
              ∃ m, made.registry.meter? made.handle = some m ∧
                m.id.toIdentity = mapped.toIdentity ∧ m.form = request.recipe.kind ∧
                m.isIdle = false) ∨
            (r.find? mapped.toIdentity = none ∧ (verdict r.filters mapped).1 = .deny ∧
              made.registry.entries = r.entries ∧
              ∃ m, made.registry.meter? made.handle = some m ∧ m.id = mapped ∧
                m.form = request.recipe.kind ∧ m.isIdle = true))) ∧
      ∀ identity handle, r.find? identity = some handle →
        ∀ later : List (Action World), (∀ a ∈ later, ¬ a.Unregisters identity) →
          let r' := r.run later
          ∀ request : MeterRequest World, request.Fits →
            (mapAll r'.filters request.id).toIdentity = identity →
            r'.answer request = ⟨r', handle, .found⟩ := by
  intro r
  have hsound : r.Sound := sound_run enumeration actions
  refine ⟨hsound, fun request hfits => ⟨hsound.answer_eq hfits, hsound.answer_cases hfits⟩, ?_⟩
  intro identity handle hfind later hlater r' request hfits hmapped
  refine (hsound.run later).answer_of_find hfits ?_
  rw [hmapped]
  exact find?_run hsound hfind hlater

end Telemetry.Registry
