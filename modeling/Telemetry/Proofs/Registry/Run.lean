import Telemetry.Meter.Recording
import Telemetry.Meter.Request
import Telemetry.Proofs.Publish.Sweep

/-!
# Runs of a registry

A run is any sequence of what applications and publishers do to a registry: filters are added,
meters are registered, removed and recorded in, and any number of publishers publish.

## Main definitions

- `Recording` — what is recorded in a meter through one of its handles
- `Action` — one step of a run; `Registry.step` and `Registry.run` carry it out
- `MeterRequest.Fits` — a request asks for a meter of the kind that it makes

## Main statements

- `Registry.step_cases` — all that a step can do to entries and meters

## Design notes

A publish names its publisher as it is at that moment, with any backend, cache and settings, so runs
with several publishers that keep a state of their own are among the runs here. A filter of the
application's own may change its mind at any time without being asked; `Action.refilter` lets all
filters do so between any two steps. A registration is one of a request, which makes its meter
itself; entering a meter that was made elsewhere is no step of a run.
-/

namespace Telemetry

variable {World : Type}

/-- What is recorded in a meter. Moments are on the monotonic clock. -/
inductive Recording
  | increment (amount : Float)
  | span (span : Span)
  | seconds (seconds : Float)
  | amount (amount : Float)
  | startTask (now : UInt64)
  | stopTask (now task : UInt64)

namespace Recording

def apply : Recording → Instrument World → Instrument World
  | increment x, i => i.increment x
  | span s, i => i.recordSpan s
  | seconds x, i => i.recordSeconds x
  | amount x, i => i.recordAmount x
  | startTask now, i => (i.startTask now).2
  | stopTask now task, i => (i.stopTask now task).2

theorem form_apply (recording : Recording) (i : Instrument World) :
    (recording.apply i).form = i.form := by
  cases recording <;> cases i <;> rename_i state <;> cases state <;> rfl

theorem isIdle_apply (recording : Recording) (i : Instrument World) :
    (recording.apply i).isIdle = i.isIdle := by
  cases recording <;> cases i <;> rename_i state <;> cases state <;> rfl

end Recording

/-- The id that is asked for is of the kind that the recipe makes. -/
def MeterRequest.Fits (request : MeterRequest World) : Prop :=
  request.id.kind = request.recipe.kind

theorem MeterRequest.fits_new (name : String) (recipe : Recipe World) :
    (MeterRequest.new name recipe).Fits :=
  rfl

/-- What is said about a meter beside its kind leaves a request fitting. -/
theorem MeterRequest.Fits.say {request : MeterRequest World} (h : request.Fits)
    {change : Id → Id} (hchange : ∀ id, (change id).kind = id.kind) :
    (request.say change).Fits :=
  (hchange request.id).trans h

/-- One step of a run. -/
inductive Action (World : Type) : Type 1
  | addFilter (f : Filter)
  | refilter (filters : List Filter)
  | setConvention (installed : Installed)
  | register (request : MeterRequest World) (fits : request.Fits)
  | remove (identity : Identity)
  | clear
  | record (handle : Nat) (recording : Recording)
  | measure (handle : Nat) (unit : TimeUnit) (world : World) (now : UInt64)
  | publish {Record Cache : Type} (publisher : Publisher Record Cache)
      (look : Registry World → World) (now : UInt64) (runtime : Bool)

/-- The actions that touch no meter: settings are changed, registrations end, meters are read. -/
def Action.Quiet : Action World → Prop
  | register _ _ => False
  | record _ _ => False
  | publish _ _ _ _ => False
  | _ => True

/-- Whether an action may end the registration of an identity. -/
def Action.Unregisters (identity : Identity) : Action World → Prop
  | remove other => other = identity
  | clear => True
  | _ => False

namespace Registry

def answer (r : Registry World) (request : MeterRequest World) : Registration World :=
  r.register request.id request.recipe.instrument

/-- The registry after an action. Measuring only looks. -/
def step (r : Registry World) : Action World → Registry World
  | .addFilter f => r.addFilter f
  | .refilter filters => { r with filters := filters }
  | .setConvention installed => r.setConvention installed
  | .register request _ => (r.answer request).registry
  | .remove identity => (r.remove identity).2
  | .clear => r.clear
  | .record handle recording => r.modify handle recording.apply
  | .measure _ _ _ _ => r
  | .publish publisher look now runtime => (publisher.iterate r look now runtime).registry

def run (r : Registry World) (actions : List (Action World)) : Registry World :=
  actions.foldl step r

/-- Recording changes nothing but what meters have recorded. -/
theorem sameMeters_record (r : Registry World) (handle : Nat) (recording : Recording) :
    r.SameMeters (r.step (.record handle recording)) :=
  sameMeters_modify fun m _ =>
    ⟨recording.form_apply m.instrument, recording.isIdle_apply m.instrument⟩

/-- A publish changes nothing but what meters have recorded. -/
theorem sameMeters_publish {Record Cache : Type} (r : Registry World)
    (publisher : Publisher Record Cache) (look : Registry World → World) (now : UInt64)
    (runtime : Bool) : r.SameMeters (r.step (.publish publisher look now runtime)) := by
  change r.SameMeters (publisher.iterate r look now runtime).registry
  rw [(publisher.iterate_sweep r look now runtime).1]
  exact sameMeters_sweep r r.handles

theorem entries_remove_sublist (r : Registry World) (identity : Identity) :
    (r.remove identity).2.entries.Sublist r.entries := by
  rw [remove_eq]
  exact List.filter_sublist

theorem store_remove (r : Registry World) (identity : Identity) :
    (r.remove identity).2.store = r.store := by
  rw [remove_eq]

/-- All that a step can do: a quiet one leaves the store alone and may leave out entries, a
registration is answered, and recordings and publishes keep all meters. -/
theorem step_cases (r : Registry World) (a : Action World) :
    (a.Quiet ∧ (r.step a).store = r.store ∧ (r.step a).entries.Sublist r.entries) ∨
      (∃ request fits, a = .register request fits) ∨
      (r.SameMeters (r.step a) ∧
        ((∃ handle recording, a = .record handle recording) ∨
          ∃ (Record Cache : Type) (publisher : Publisher Record Cache)
            (look : Registry World → World) (now : UInt64) (runtime : Bool),
            a = .publish publisher look now runtime)) := by
  cases a with
  | addFilter f => exact .inl ⟨trivial, rfl, .refl _⟩
  | refilter filters => exact .inl ⟨trivial, rfl, .refl _⟩
  | setConvention installed => exact .inl ⟨trivial, rfl, .refl _⟩
  | register request fits => exact .inr (.inl ⟨request, fits, rfl⟩)
  | remove identity =>
    exact .inl ⟨trivial, r.store_remove identity, r.entries_remove_sublist identity⟩
  | clear => exact .inl ⟨trivial, rfl, List.nil_sublist _⟩
  | record handle recording =>
    exact .inr (.inr ⟨sameMeters_record r handle recording, .inl ⟨handle, recording, rfl⟩⟩)
  | measure handle unit world now => exact .inl ⟨trivial, rfl, .refl _⟩
  | publish publisher look now runtime =>
    exact .inr (.inr ⟨sameMeters_publish r publisher look now runtime,
      .inr ⟨_, _, publisher, look, now, runtime, rfl⟩⟩)

end Registry

end Telemetry
