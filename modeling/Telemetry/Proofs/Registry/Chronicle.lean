import Telemetry.Proofs.Meter.Tally
import Telemetry.Proofs.Registry.Course

/-!
# The chronicle of a meter

A run makes meters, lets them accept amounts, and takes snapshots of those that are registered. The
chronicle of a handle lists this for the meter behind it. For a meter that accumulates, it is cut by
its snapshots into segments of accepted amounts, each of which is reported by the snapshot at its
end; so nothing is lost and nothing is reported twice, whatever other meters, other publishers and
readers do.

## Main definitions

- `Occurrence` — what can happen to a meter
- `Registry.chronicle` — what happens to the meter behind a handle in a run
- `Recipe.telling` — what is told of an instrument: segments with their snapshots
- `Recipe.Leads` — from some amounts held, occurrences lead to others

## Main statements

- `Registry.chronicle_segments` — the chronicle of every meter of every run
-/

namespace Telemetry

variable {World : Type}

/-- What can happen to a meter: it is made, it accepts an amount, or its snapshot is taken. -/
inductive Occurrence (World : Type)
  | made (recipe : Recipe World)
  | accepted (amount : Amount)
  | snapshot (unit : TimeUnit) (snapshot : Snapshot)

/-! ## Tellings -/

namespace Recipe

/-- What is told of an instrument: segments of accepted amounts, each closed by the snapshot that
reports it, and then the amounts that are still held. -/
def telling (recipe : Recipe World) (segments : List (TimeUnit × List Amount))
    (held : List Amount) : List (Occurrence World) :=
  segments.flatMap (fun s => s.2.map .accepted ++ [.snapshot s.1 (recipe.report s.1 s.2)]) ++
    held.map .accepted

/-- From an instrument that holds some amounts, occurrences lead to one that holds others: together
with the amounts held before, they are a telling. -/
def Leads (recipe : Recipe World) (held : List Amount) (occurrences : List (Occurrence World))
    (held' : List Amount) : Prop :=
  ∃ segments, held.map .accepted ++ occurrences = recipe.telling segments held'

namespace Leads

variable {recipe : Recipe World} {held held' held'' : List Amount}
  {occurrences occurrences' : List (Occurrence World)}

theorem refl : recipe.Leads held [] held := ⟨[], List.append_nil _⟩

theorem accepted (amount : Amount) :
    recipe.Leads held [.accepted amount] (held ++ [amount]) :=
  ⟨[], by simp [telling]⟩

/-- A snapshot reports what is held, and nothing is held after it. -/
theorem snapshot (unit : TimeUnit) :
    recipe.Leads held [.snapshot unit (recipe.report unit held)] [] :=
  ⟨[(unit, held)], by simp [telling]⟩

theorem trans (h : recipe.Leads held occurrences held')
    (h' : recipe.Leads held' occurrences' held'') :
    recipe.Leads held (occurrences ++ occurrences') held'' := by
  obtain ⟨segments, hsegments⟩ := h
  obtain ⟨segments', hsegments'⟩ := h'
  refine ⟨segments ++ segments', ?_⟩
  rw [← List.append_assoc, hsegments, telling, List.append_assoc, hsegments', telling, telling,
    List.flatMap_append, List.append_assoc]

end Leads

end Recipe

namespace Registry

/-- The amount of a recording, if the meter behind a handle accepts it. -/
def accepted? (r : Registry World) (handle : Nat) (recording : Recording) : Option Amount :=
  (r.meter? handle).bind fun m => m.instrument.accepted? recording

/-- The snapshots of one meter among those that were taken. -/
def snapshotsOf (unit : TimeUnit) (handle : Nat) (taken : List (Nat × Snapshot)) :
    List (Occurrence World) :=
  (taken.filter fun t => t.1 == handle).map fun t => .snapshot unit t.2

/-- What an action makes happen to the meter behind a handle. -/
def occurrences (r : Registry World) (handle : Nat) : Action World → List (Occurrence World)
  | .register request _ =>
    let made := r.answer request
    if made.outcome = .created ∧ made.handle = handle then [.made request.recipe] else []
  | .record other recording =>
    if other = handle then ((r.accepted? handle recording).map .accepted).toList else []
  | .publish publisher look now runtime =>
    snapshotsOf publisher.backend.unit handle
      ((publisher.iterate r look now runtime).shots.map Shot.taken)
  | _ => []

/-- What happens to the meter behind a handle in a run. -/
def chronicle (r : Registry World) (handle : Nat) :
    List (Action World) → List (Occurrence World)
  | [] => []
  | a :: rest => r.occurrences handle a ++ (r.step a).chronicle handle rest

theorem occurrences_of_quiet {a : Action World} (h : a.Quiet) (r : Registry World) (handle : Nat) :
    r.occurrences handle a = [] := by
  cases a with
  | register request fits => exact h.elim
  | record other recording => exact h.elim
  | publish publisher look now runtime => exact h.elim
  | _ => rfl

/-! ## Meters that accumulate -/

/-- The meter behind a handle holds some amounts in the way of a recipe. -/
def Holds (r : Registry World) (handle : Nat) (recipe : Recipe World) (held : List Amount) :
    Prop :=
  ∃ m, r.meter? handle = some m ∧ m.instrument = recipe.holding held

section Holding

variable {recipe : Recipe World} {held : List Amount} {handle : Nat}

/-- A recording in any meter adds to what a meter holds what that meter accepts of it. -/
theorem Holds.record (hrecipe : recipe.Accumulates) {r : Registry World}
    (h : r.Holds handle recipe held) (other : Nat) (recording : Recording) :
    ∃ held', recipe.Leads held (r.occurrences handle (.record other recording)) held' ∧
      (r.step (.record other recording)).Holds handle recipe held' := by
  obtain ⟨m, hm, hi⟩ := h
  by_cases heq : other = handle
  · subst heq
    refine ⟨held ++ (m.instrument.accepted? recording).toList, ?_, ?_⟩
    · have haccepted : r.accepted? other recording = m.instrument.accepted? recording := by
        rw [accepted?, hm, Option.bind_some]
      simp only [occurrences, if_true, haccepted]
      cases m.instrument.accepted? recording with
      | none => simpa using Recipe.Leads.refl
      | some amount => exact .accepted amount
    · refine ⟨{ m with instrument := recording.apply m.instrument }, ?_, ?_⟩
      · simp [step, hm]
      · simp only [hi]
        exact Recipe.apply_holding hrecipe held recording
  · refine ⟨held, ?_, m, ?_, hi⟩
    · simp only [occurrences, heq, if_false]
      exact .refl
    · simpa [step, heq] using hm

/-- A sweep takes what a meter holds whenever it comes to this meter. -/
theorem Holds.sweep (hrecipe : recipe.Accumulates) {r : Registry World}
    (h : r.Holds handle recipe held) (unit : TimeUnit) (view : View World) (handles : List Nat) :
    ∃ held', recipe.Leads held (snapshotsOf unit handle (r.sweep unit view handles).1) held' ∧
      (r.sweep unit view handles).2.Holds handle recipe held' := by
  induction handles generalizing r held with
  | nil => exact ⟨held, .refl, h⟩
  | cons other rest ih =>
    cases htake : r.take other unit (view.look r) view.now with
    | none =>
      rw [sweep_cons_of_none htake]
      exact ih h
    | some shot =>
      obtain ⟨m, hm, hi⟩ := h
      obtain ⟨m', hm', hsnapshot, hr⟩ := take_eq_some htake
      rw [sweep_cons_of_some htake]
      by_cases heq : other = handle
      · -- its own snapshot closes a segment
        subst heq
        obtain rfl : m = m' := Option.some.inj (hm.symm.trans hm')
        have hreport : shot.1 = recipe.report unit held := by
          rw [hsnapshot, hi, Recipe.take_holding hrecipe]
        have hnext : shot.2.Holds other recipe [] := by
          refine ⟨{ m with instrument := recipe.holding [] }, ?_, rfl⟩
          rw [hr, meter?_modify_self, hm, hi, Recipe.take_holding hrecipe]
          rfl
        obtain ⟨held', hleads, hholds⟩ := ih hnext
        refine ⟨held', ?_, hholds⟩
        have hfirst : recipe.Leads held [.snapshot unit shot.1] [] := by
          rw [hreport]
          exact .snapshot unit
        simpa [snapshotsOf] using hfirst.trans hleads
      · -- the snapshot of another meter is not told of
        have hnext : shot.2.Holds handle recipe held := by
          refine ⟨m, ?_, hi⟩
          rw [hr, meter?_modify_of_ne _ heq]
          exact hm
        obtain ⟨held', hleads, hholds⟩ := ih hnext
        refine ⟨held', ?_, hholds⟩
        simpa [snapshotsOf, heq] using hleads

end Holding

/-! ## Registrations -/

/-- A handle that has a meter is not given to a new one. -/
theorem occurrences_register {r : Registry World} (h : r.Sound) {request : MeterRequest World}
    (fits : request.Fits) {handle : Nat} (hlt : handle < r.store.length) :
    r.occurrences handle (.register request fits) = [] := by
  refine if_neg ?_
  rintro ⟨hcreated, hhandle⟩
  rw [h.answer_eq fits] at hcreated hhandle
  rcases r.getOrCreate_cases request.id request.recipe.instrument with
    ⟨other, -, hmade⟩ | ⟨-, -, hmade⟩ | ⟨-, -, hmade⟩
  · rw [hmade] at hcreated
    cases hcreated
  · rw [hmade] at hcreated
    cases hcreated
  · rw [hmade] at hhandle
    exact Nat.ne_of_lt hlt hhandle.symm

/-- Every step tells of a meter that accumulates what it does to it. -/
theorem Holds.step {recipe : Recipe World} (hrecipe : recipe.Accumulates) {r : Registry World}
    (hsound : r.Sound) {handle : Nat} {held : List Amount} (h : r.Holds handle recipe held)
    (a : Action World) :
    ∃ held', recipe.Leads held (r.occurrences handle a) held' ∧
      (r.step a).Holds handle recipe held' := by
  rcases r.step_cases a with ⟨hquiet, hstore, -⟩ | ⟨request, fits, rfl⟩ |
    ⟨-, ⟨other, recording, rfl⟩ | ⟨_, _, publisher, look, now, runtime, rfl⟩⟩
  · obtain ⟨m, hm, hi⟩ := h
    rw [occurrences_of_quiet hquiet]
    refine ⟨held, .refl, m, ?_, hi⟩
    rw [meter?, hstore]
    exact hm
  · obtain ⟨m, hm, hi⟩ := h
    rw [occurrences_register hsound fits (meter?_lt hm)]
    exact ⟨held, .refl, m, meter?_register hm .., hi⟩
  · exact h.record hrecipe other recording
  · obtain ⟨hregistry, hshots⟩ := publisher.iterate_sweep r look now runtime
    obtain ⟨held', hleads, hholds⟩ := h.sweep hrecipe publisher.backend.unit
      (publisher.viewOf r look now) r.handles
    refine ⟨held', ?_, ?_⟩
    · rw [← hshots] at hleads
      exact hleads
    · rw [← hregistry] at hholds
      exact hholds

theorem Holds.run {recipe : Recipe World} (hrecipe : recipe.Accumulates) {r : Registry World}
    (hsound : r.Sound) {handle : Nat} {held : List Amount} (h : r.Holds handle recipe held)
    (actions : List (Action World)) :
    ∃ held', recipe.Leads held (r.chronicle handle actions) held' ∧
      (r.run actions).Holds handle recipe held' := by
  induction actions generalizing r held with
  | nil => exact ⟨held, .refl, h⟩
  | cons a rest ih =>
    obtain ⟨held', hleads, hholds⟩ := h.step hrecipe hsound a
    obtain ⟨held'', hleads', hholds'⟩ := ih (hsound.step a) hholds
    exact ⟨held'', hleads.trans hleads', hholds'⟩

/-! ## Meters that are not registered -/

/-- A publish takes snapshots of registered meters only. -/
theorem occurrences_publish {Record Cache : Type} {r : Registry World} (h : r.Sound)
    (publisher : Publisher Record Cache) (look : Registry World → World) (now : UInt64)
    (runtime : Bool) {handle : Nat} (hhandle : handle ∉ r.handles) :
    r.occurrences handle (.publish publisher look now runtime) = [] := by
  obtain ⟨-, hshots⟩ := publisher.iterate_sweep r look now runtime
  rw [occurrences, hshots, snapshotsOf, List.map_eq_nil_iff, List.filter_eq_nil_iff]
  intro taken htaken heq
  have hmem : taken.1 ∈ r.handles := by
    rw [← handles_sweep h.stored]
    exact List.mem_map_of_mem htaken
  exact hhandle (beq_iff_eq.1 heq ▸ hmem)

/-- There is a meter behind a handle, and it is not registered. -/
structure Gone (r : Registry World) (handle : Nat) : Prop where
  lt_length : handle < r.store.length
  not_mem : handle ∉ r.handles

/-- No step registers a meter again that is not registered. -/
theorem Gone.step {r : Registry World} {handle : Nat} (h : r.Gone handle) (hsound : r.Sound)
    (a : Action World) : (r.step a).Gone handle := by
  rcases r.step_cases a with ⟨-, hstore, hentries⟩ | ⟨request, fits, rfl⟩ | ⟨hsame, -⟩
  · refine ⟨hstore ▸ h.lt_length, fun hin => h.not_mem ?_⟩
    obtain ⟨e, he, hhandle⟩ := mem_handles.1 hin
    exact mem_handles.2 ⟨e, hentries.subset he, hhandle⟩
  · change (r.answer request).registry.Gone handle
    rw [hsound.answer_eq fits]
    rcases r.getOrCreate_cases request.id request.recipe.instrument with
      ⟨other, -, hmade⟩ | ⟨-, -, hmade⟩ | ⟨-, -, hmade⟩
    · rw [hmade]
      exact h
    · rw [hmade]
      refine ⟨?_, h.not_mem⟩
      rw [length_store_asked]
      exact Nat.lt_add_right _ h.lt_length
    · rw [hmade]
      constructor
      · rw [length_store_enter, length_store_asked]
        exact Nat.lt_add_right _ h.lt_length
      · -- the new entry has the next handle, which is not this one
        have hne : handle ≠ r.store.length := Nat.ne_of_lt h.lt_length
        intro hin
        obtain ⟨e, he, rfl⟩ := mem_handles.1 hin
        rcases List.mem_append.1 he with hold | hnew
        · exact h.not_mem (mem_handles.2 ⟨e, hold, rfl⟩)
        · exact hne (congrArg Prod.snd (List.mem_singleton.1 hnew))
  · exact ⟨hsame.length_store ▸ h.lt_length, hsame.handles ▸ h.not_mem⟩

/-- No snapshot is taken of a meter that is not registered; it may still accept amounts. -/
theorem Gone.occurrences {r : Registry World} {handle : Nat} (h : r.Gone handle)
    (hsound : r.Sound) (a : Action World) :
    ∀ o ∈ r.occurrences handle a, ∃ recording amount,
      r.accepted? handle recording = some amount ∧ o = .accepted amount := by
  intro o ho
  rcases r.step_cases a with ⟨hquiet, -⟩ | ⟨request, fits, rfl⟩ |
    ⟨-, ⟨other, recording, rfl⟩ | ⟨_, _, publisher, look, now, runtime, rfl⟩⟩
  · rw [occurrences_of_quiet hquiet] at ho
    cases ho
  · rw [occurrences_register hsound fits h.lt_length] at ho
    cases ho
  · by_cases heq : other = handle
    · simp only [Registry.occurrences, heq, if_true, Option.mem_toList,
        Option.map_eq_some_iff] at ho
      obtain ⟨amount, hamount, rfl⟩ := ho
      exact ⟨recording, amount, hamount, rfl⟩
    · simp [Registry.occurrences, heq] at ho
  · rw [occurrences_publish hsound publisher look now runtime h.not_mem] at ho
    cases ho

theorem Gone.chronicle {r : Registry World} {handle : Nat} (h : r.Gone handle) (hsound : r.Sound)
    (actions : List (Action World)) :
    ∀ o ∈ r.chronicle handle actions, ∃ amount, o = .accepted amount := by
  induction actions generalizing r with
  | nil => simp [Registry.chronicle]
  | cons a rest ih =>
    intro o ho
    rcases List.mem_append.1 ho with ho | ho
    · obtain ⟨-, amount, -, heq⟩ := h.occurrences hsound a o ho
      exact ⟨amount, heq⟩
    · exact ih (h.step hsound a) (hsound.step a) o ho

/-- An action takes the registration from the meter behind a handle. -/
inductive Withdraws (r : Registry World) (handle : Nat) : Action World → Prop
  | remove (identity : Identity) (h : r.find? identity = some handle) :
    Withdraws r handle (.remove identity)
  | clear (h : handle ∈ r.handles) : Withdraws r handle .clear

theorem Sound.gone_of_withdraws {r : Registry World} (h : r.Sound) {handle : Nat}
    {a : Action World} (ha : r.Withdraws handle a) : (r.step a).Gone handle := by
  cases ha with
  | remove identity hfind =>
    obtain ⟨m, hm, -⟩ := h.exists_meter hfind
    have hlt : handle < (r.remove identity).2.store.length := by
      rw [store_remove]
      exact meter?_lt hm
    exact ⟨hlt, h.not_mem_handles_remove hfind⟩
  | clear hmem =>
    refine ⟨h.stored handle hmem, fun hin => ?_⟩
    obtain ⟨e, he, -⟩ := mem_handles.1 hin
    cases he

/-! ## Idle meters -/

theorem gone_of_isIdle {r : Registry World} (h : r.Sound) {handle : Nat} {m : Meter World}
    (hm : r.meter? handle = some m) (hidle : m.isIdle = true) : r.Gone handle := by
  refine ⟨meter?_lt hm, fun hmem => ?_⟩
  obtain ⟨e, he, rfl⟩ := mem_handles.1 hmem
  obtain ⟨m', hm', -, -, hworks⟩ := h.serves e he
  obtain rfl : m = m' := Option.some.inj (hm.symm.trans hm')
  exact Bool.false_ne_true (hworks.symm.trans hidle)

/-- Nothing ever happens to an idle meter. -/
theorem chronicle_of_isIdle {r : Registry World} (h : r.Sound) {handle : Nat} {m : Meter World}
    (hm : r.meter? handle = some m) (hidle : m.isIdle = true) (actions : List (Action World)) :
    r.chronicle handle actions = [] := by
  induction actions generalizing r m with
  | nil => rfl
  | cons a rest ih =>
    -- it is not registered, so it could only accept amounts, and it is idle
    have hnone : r.occurrences handle a = [] := by
      refine List.eq_nil_iff_forall_not_mem.2 fun o ho => ?_
      obtain ⟨recording, amount, hamount, -⟩ := (gone_of_isIdle h hm hidle).occurrences h a o ho
      rw [accepted?, hm, Option.bind_some, Instrument.accepted?_of_isIdle hidle] at hamount
      cases hamount
    obtain ⟨m', hm', -, -, hstays⟩ := exists_meter_change hm (.act a)
    rw [chronicle, hnone, ih (h.step a) hm' (hstays.trans hidle)]
    rfl

/-! ## All meters of a run -/

/-- A registration uses up the next handle, or none. -/
theorem Sound.register_of_length_le {r : Registry World} (h : r.Sound) {handle : Nat}
    (hle : r.store.length ≤ handle) {request : MeterRequest World} (fits : request.Fits) :
    let r' := (r.answer request).registry
    (r.occurrences handle (.register request fits) = [] ∧ r'.store.length ≤ handle) ∨
      (r.occurrences handle (.register request fits) = [] ∧
        ∃ m, r'.meter? handle = some m ∧ m.isIdle = true) ∨
      (r.occurrences handle (.register request fits) = [.made request.recipe] ∧
        r'.Holds handle request.recipe []) := by
  intro r'
  have hr' : r' = (r.getOrCreate request.id (.fresh request.recipe.instrument)).registry := by
    rw [← h.answer_eq fits]
  simp only [occurrences, h.answer_eq fits, hr']
  rcases r.getOrCreate_cases request.id request.recipe.instrument with
    ⟨other, -, hmade⟩ | ⟨-, -, hmade⟩ | ⟨-, -, hmade⟩
  · rw [hmade]
    exact .inl ⟨by simp, hle⟩
  · rw [hmade]
    by_cases heq : handle = r.store.length
    · subst heq
      exact .inr (.inl ⟨by simp, _, meter?_asked .., Instrument.isIdle_idle _⟩)
    · refine .inl ⟨by simp, ?_⟩
      rw [length_store_asked]
      omega
  · rw [hmade]
    by_cases heq : handle = r.store.length
    · subst heq
      exact .inr (.inr ⟨by simp, _, meter?_asked r (mapAll r.filters request.id) _,
        Recipe.instrument_eq_holding request.recipe⟩)
    · refine .inl ⟨by simp [Ne.symm heq], ?_⟩
      rw [length_store_enter, length_store_asked]
      omega

/-- What a step does for a handle that has not been given out: nothing, a meter that was denied, or
a new one, which holds nothing. -/
theorem Sound.step_of_length_le {r : Registry World} (h : r.Sound) {handle : Nat}
    (hle : r.store.length ≤ handle) (a : Action World) :
    (r.occurrences handle a = [] ∧ (r.step a).store.length ≤ handle) ∨
      (r.occurrences handle a = [] ∧
        ∃ m, (r.step a).meter? handle = some m ∧ m.isIdle = true) ∨
      ∃ recipe, r.occurrences handle a = [.made recipe] ∧ (r.step a).Holds handle recipe [] := by
  rcases r.step_cases a with ⟨hquiet, hstore, -⟩ | ⟨request, fits, rfl⟩ |
    ⟨hsame, ⟨other, recording, rfl⟩ | ⟨_, _, publisher, look, now, runtime, rfl⟩⟩
  · exact .inl ⟨occurrences_of_quiet hquiet .., hstore ▸ hle⟩
  · rcases h.register_of_length_le hle fits with hnothing | hidle | hmade
    · exact .inl hnothing
    · exact .inr (.inl hidle)
    · exact .inr (.inr ⟨request.recipe, hmade⟩)
  · have hnone : r.meter? handle = none := List.getElem?_eq_none hle
    refine .inl ⟨?_, hsame.length_store ▸ hle⟩
    simp [occurrences, accepted?, hnone]
  · have hmem : handle ∉ r.handles := fun hin => Nat.not_lt.2 hle (h.stored handle hin)
    exact .inl ⟨occurrences_publish h publisher look now runtime hmem, hsame.length_store ▸ hle⟩

/-- The chronicle of a handle that has not been given out begins when a meter is made, and then
tells what that meter holds. -/
theorem Sound.chronicle_of_length_le {r : Registry World} (h : r.Sound) {handle : Nat}
    (hle : r.store.length ≤ handle) (actions : List (Action World)) :
    r.chronicle handle actions = [] ∨
      ∃ recipe rest, r.chronicle handle actions = .made recipe :: rest ∧
        (recipe.Accumulates →
          ∃ held, recipe.Leads [] rest held ∧ (r.run actions).Holds handle recipe held) := by
  induction actions generalizing r with
  | nil => exact .inl rfl
  | cons a rest ih =>
    rcases h.step_of_length_le hle a with
      ⟨hnone, hle'⟩ | ⟨hnone, m, hm, hidle⟩ | ⟨recipe, hmade, hholds⟩
    · rw [chronicle, hnone, List.nil_append]
      exact ih (h.step a) hle'
    · rw [chronicle, hnone, List.nil_append, chronicle_of_isIdle (h.step a) hm hidle]
      exact .inl rfl
    · refine .inr ⟨recipe, (r.step a).chronicle handle rest, ?_, fun hrecipe => ?_⟩
      · rw [chronicle, hmade, List.singleton_append]
      · exact hholds.run hrecipe (h.step a) rest

/-- Nothing that a meter accepts is lost or reported twice. In every run the chronicle of a handle
is empty, or begins with a meter that is made. What follows for a counter, a timer or a summary is
segments of accepted amounts, each closed by a snapshot that reports this segment, and then the
amounts accepted since, which are what measuring reads. Measuring, and taking snapshots of other
meters, leaves a meter as it is; and once it is removed, no snapshot is taken of it again. -/
theorem chronicle_segments (enumeration : Enumeration) (actions : List (Action World))
    (handle : Nat) :
    let r := run (empty enumeration) actions
    (chronicle (empty enumeration) handle actions = [] ∨
      ∃ recipe rest, chronicle (empty enumeration) handle actions = .made recipe :: rest ∧
        (recipe.Accumulates →
          ∃ segments held, rest = recipe.telling segments held ∧
            ∃ m, r.meter? handle = some m ∧ ∀ unit world now,
              m.instrument.measure unit world now = (recipe.report unit held).measurements)) ∧
      (∀ other unit world now, r.step (.measure other unit world now) = r) ∧
      (∀ other, other ≠ handle → ∀ unit world now snapshot r',
        r.take other unit world now = some (snapshot, r') → r'.meter? handle = r.meter? handle) ∧
      ∀ a, r.Withdraws handle a → ∀ later : List (Action World),
        ∀ o ∈ (r.step a).chronicle handle later, ∃ amount, o = .accepted amount := by
  intro r
  have hsound : r.Sound := sound_run enumeration actions
  refine ⟨?_, fun _ _ _ _ => rfl, ?_, ?_⟩
  · rcases (sound_empty enumeration).chronicle_of_length_le (Nat.zero_le handle) actions with
      hnone | ⟨recipe, rest, hmade, hrest⟩
    · exact .inl hnone
    · refine .inr ⟨recipe, rest, hmade, fun hrecipe => ?_⟩
      obtain ⟨held, ⟨segments, hsegments⟩, m, hm, hi⟩ := hrest hrecipe
      refine ⟨segments, held, hsegments, m, hm, fun unit world now => ?_⟩
      rw [hi, Recipe.measure_holding hrecipe]
  · intro other hne unit world now snapshot r' htake
    obtain ⟨m, -, -, rfl⟩ := take_eq_some htake
    exact meter?_modify_of_ne r hne _
  · intro a ha later
    exact (hsound.gone_of_withdraws ha).chronicle (hsound.step a) later

end Registry

end Telemetry
