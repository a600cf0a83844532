import Telemetry.Proofs.Publish.Isolation
import Telemetry.Proofs.Registry.Course

/-!
# Idle meters

A denied registration hands out an idle meter. Whatever is recorded behind its handle, in whatever
order with other changes, publishes and answers, comes to nothing: the run is the same without it. An
idle meter stays idle, so this holds for as long as somebody has the handle.

## Main definitions

- `Registry.IdleAt` — an idle meter is behind a handle
- `Service.Trial.recordsIn` — the steps of a run that record behind a handle

## Main statements

- `Registry.IdleAt.change` — an idle meter stays idle
- `Registry.idleAt_register` — whoever is denied a meter is handed an idle one
- `Service.transcript_of_idleAt` — a run without what is recorded in an idle meter
-/

namespace Telemetry

variable {World Record Cache : Type}

/-! ## Instruments and handles -/

/-- An idle instrument discards what it is given. -/
theorem Recording.apply_of_isIdle {i : Instrument World} (h : i.isIdle = true)
    (recording : Recording) : recording.apply i = i := by
  cases recording <;> cases i <;> rename_i state <;> cases state <;> first | rfl | cases h

namespace Registry

/-- An idle meter is behind a handle. -/
def IdleAt (r : Registry World) (handle : Nat) : Prop :=
  ∃ m, r.meter? handle = some m ∧ m.isIdle = true

theorem modify_eq_self {r : Registry World} {handle : Nat}
    {f : Instrument World → Instrument World}
    (h : ∀ m, r.meter? handle = some m → f m.instrument = m.instrument) :
    r.modify handle f = r := by
  have hstore : (r.store.modify handle fun m => { m with instrument := f m.instrument }) =
      r.store := by
    refine List.ext_getElem? fun n => ?_
    rw [List.getElem?_modify]
    by_cases hn : handle = n
    · subst hn
      cases hm : r.store[handle]? with
      | none => rfl
      | some m => simp [h m hm]
    · simp [hn]
  rw [modify, hstore]

theorem IdleAt.modify_apply {r : Registry World} {handle : Nat} (h : r.IdleAt handle)
    (recording : Recording) : r.modify handle recording.apply = r := by
  obtain ⟨m, hm, hidle⟩ := h
  refine modify_eq_self fun m' hm' => ?_
  obtain rfl : m = m' := Option.some.inj (hm.symm.trans hm')
  exact recording.apply_of_isIdle hidle

theorem IdleAt.of_sameMeters {r r' : Registry World} {handle : Nat} (h : r.IdleAt handle)
    (hsame : r.SameMeters r') : r'.IdleAt handle := by
  obtain ⟨m, hm, hidle⟩ := h
  obtain ⟨m', hm', -, -, hidle'⟩ := hsame.exists_meter hm
  exact ⟨m', hm', hidle'.trans hidle⟩

theorem meter?_keep (r : Registry World) (m : Meter World) :
    (r.keep m).1.meter? (r.keep m).2 = some m := by
  simp [meter?, keep]

/-- An idle meter stays idle, whatever is changed. -/
theorem IdleAt.change {r : Registry World} {handle : Nat} (h : r.IdleAt handle)
    (c : Change World) : (r.change c).IdleAt handle := by
  obtain ⟨m, hm, hidle⟩ := h
  obtain ⟨m', hm', -, -, hstays⟩ := exists_meter_change hm c
  exact ⟨m', hm', hstays.trans hidle⟩

theorem idleAt_getOrCreate {r : Registry World} {id : Id} {candidate : Candidate World}
    (h : (r.getOrCreate id candidate).outcome = .denied) :
    let made := r.getOrCreate id candidate
    made.registry.IdleAt made.handle := by
  intro made
  obtain ⟨-, -, hmade⟩ := getOrCreate_of_denied h
  rw [show made = _ from hmade]
  exact ⟨_, meter?_asked .., Instrument.isIdle_idle _⟩

/-- Whoever is denied a meter is handed an idle one. -/
theorem idleAt_register {r : Registry World} {id : Id} {instrument : Instrument World}
    (h : (r.register id instrument).outcome = .denied) :
    let made := r.register id instrument
    made.registry.IdleAt made.handle := by
  intro made
  have houtcome : (r.getOrCreate id (.fresh instrument)).outcome = .denied := by
    rw [← h]
    unfold register
    simp only
    split
    · rfl
    · split <;> rfl
  have hidle := idleAt_getOrCreate houtcome
  simp only [made, register]
  split
  · exact hidle
  · split
    · exact hidle
    · exact ⟨_, meter?_keep .., Instrument.isIdle_idle _⟩

end Registry

/-! ## Runs -/

/-- Whether a change records behind a handle. -/
def Change.recordsIn (handle : Nat) : Change World → Bool
  | .act (.record other _) => other == handle
  | _ => false

namespace Service

/-- Whether a step of a run records behind a handle. -/
def Trial.recordsIn (handle : Nat) (e : Trial World) : Bool :=
  match e.step with
  | .change c => c.recordsIn handle
  | _ => false

theorem Trial.eq_of_recordsIn {handle : Nat} {e : Trial World} (h : e.recordsIn handle = true) :
    ∃ recording, e.step = .change (.act (.record handle recording)) := by
  obtain ⟨step, faults⟩ := e
  cases step with
  | change c =>
    cases c with
    | act a =>
      cases a with
      | record other recording =>
        obtain rfl : other = handle := by simpa [recordsIn, Change.recordsIn] using h
        exact ⟨recording, rfl⟩
      | _ => cases h
    | offer id candidate => cases h
  | publish look now runtime => cases h
  | answer position answer => cases h

namespace Transcript

variable {t : Transcript World Record Cache} {handle : Nat}

/-- What is recorded in an idle meter leaves no trace. -/
theorem next_of_recordsIn (hidle : t.service.registry.IdleAt handle) {e : Trial World}
    (h : e.recordsIn handle = true) : t.next e = t := by
  obtain ⟨recording, hstep⟩ := Trial.eq_of_recordsIn h
  have hsame := hidle.modify_apply recording
  rw [next, hstep]
  change { t with
    service := ⟨t.service.publisher, t.service.registry.modify handle recording.apply⟩ } = t
  rw [hsame]

theorem idleAt_next (hidle : t.service.registry.IdleAt handle) (e : Trial World) :
    (t.next e).service.registry.IdleAt handle := by
  obtain ⟨step, faults⟩ := e
  cases step with
  | change c => exact hidle.change c
  | publish look now runtime =>
    refine hidle.of_sameMeters ?_
    -- the registry after a publish is the one after a publish without faults
    have hwork := t.service.publisher.work_iterateWith t.service.registry look now faults noFaults
      runtime
    change t.service.registry.SameMeters
      (t.service.publisher.iterateWith faults t.service.registry look now runtime).work.registry
    rw [hwork]
    exact Registry.sameMeters_publish t.service.registry t.service.publisher look now runtime
  | answer position answer => exact hidle

theorem foldl_next_of_idleAt (hidle : t.service.registry.IdleAt handle)
    (trials : List (Trial World)) :
    trials.foldl next t = (trials.filter fun e => !e.recordsIn handle).foldl next t := by
  induction trials generalizing t with
  | nil => rfl
  | cons e rest ih =>
    cases h : e.recordsIn handle with
    | true =>
      rw [List.filter_cons_of_neg (by simp [h]), List.foldl_cons, next_of_recordsIn hidle h,
        ih hidle]
    | false =>
      rw [List.filter_cons_of_pos (by simp [h]), List.foldl_cons, List.foldl_cons,
        ih (idleAt_next hidle e)]

end Transcript

/-- A run comes to the same without what is recorded in a meter that is idle at its start. -/
theorem transcript_of_idleAt {s : Service World Record Cache} {handle : Nat}
    (h : s.registry.IdleAt handle) (trials : List (Trial World)) :
    s.transcript trials = s.transcript (trials.filter fun e => !e.recordsIn handle) :=
  Transcript.foldl_next_of_idleAt h trials

end Service

end Telemetry
