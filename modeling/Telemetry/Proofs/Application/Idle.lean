import Telemetry.Proofs.Application.Deeds
import Telemetry.Proofs.Registry.Idle

/-!
# What an application does with an idle meter

Through the handle of an idle meter an application may count and record, measure how long something
takes, and start and end tasks. What comes of it is the time that it took and the samples that the
application has in its hands. A sample of a timer is a moment: it does not say which timer it is of,
and to stop it against another timer is to record in that one.

## Main definitions

- `Deed.Through` — what an application does through a handle
- `Deed.pass` — the time that a deed takes
- `Application.holding` — an application with other samples at another time

## Main statements

- `Application.foldl_perform_through` — the use of an idle meter
-/

namespace Telemetry

/-- What an application does through a handle: it records, measures how long something takes, and
starts and ends tasks. -/
def Deed.Through (handle : Nat) : Deed → Prop
  | .modify other change => other = handle ∧ ∃ recording : Recording, change = recording.apply
  | .time other _ => other = handle
  | .startSample _ => True
  | .stopSample other _ => other = handle
  | .startTask other _ => other = handle
  | .stopTask other _ => other = handle
  | _ => False

/-- The clock after a deed of which only the time is taken into account that it takes. -/
def Deed.pass (clock : Clock) : Deed → Clock
  | .time _ takes => clock.advance takes
  | _ => clock

namespace Application

/-- An application whose clock has been moved and whose samples are others. -/
def holding (app : Application) (clock : Clock) (timers : Names UInt64)
    (tasks : Names TaskSample) : Application :=
  { app with clock := clock, timerSamples := timers, taskSamples := tasks }

theorem modify_of_idleAt {app : Application} {handle : Nat} (h : app.registry.IdleAt handle)
    (recording : Recording) : app.modify handle recording.apply = app := by
  rw [modify, h.modify_apply]

theorem modify_instrument {app : Application} {handle : Nat} {m : Meter World}
    (hm : app.registry.meter? handle = some m) :
    app.modify handle (fun _ => m.instrument) = app := by
  have hsame : app.registry.modify handle (fun _ => m.instrument) = app.registry := by
    refine Registry.modify_eq_self fun m' hm' => ?_
    rw [Option.some.inj (hm.symm.trans hm')]
  rw [modify, hsame]

/-- To use an idle meter once takes time and moves samples about, and that is all. -/
theorem perform_through {app : Application} {handle : Nat} (h : app.registry.IdleAt handle)
    {deed : Deed} (hdeed : deed.Through handle) (config : NewRelic.Config) :
    ∃ timers tasks,
      (app.perform config deed).2 = app.holding (deed.pass app.clock) timers tasks := by
  cases deed with
  | modify other change =>
    obtain ⟨rfl, recording, rfl⟩ := hdeed
    exact ⟨_, _, modify_of_idleAt h recording⟩
  | time other takes =>
    obtain rfl := hdeed
    have hlater : (app.advance takes).registry.IdleAt other := h
    exact ⟨_, _, modify_of_idleAt hlater (.span _)⟩
  | startSample name => exact ⟨_, _, rfl⟩
  | stopSample other name =>
    obtain rfl := hdeed
    simp only [perform]
    split
    · exact ⟨_, _, rfl⟩
    · have hwithout : ({ app with timerSamples := app.timerSamples.remove name } :
          Application).registry.IdleAt other := h
      exact ⟨_, _, modify_of_idleAt hwithout (.span _)⟩
  | startTask other name =>
    obtain rfl := hdeed
    obtain ⟨m, hm, hidle⟩ := h
    have hsame : (m.instrument.startTask app.now).2 = m.instrument :=
      Recording.apply_of_isIdle hidle (.startTask app.now)
    simp only [perform, meter?, hm, startTask, hsame]
    -- the task has a name by now, and the meter is where it was
    refine ⟨_, _, modify_instrument ?_⟩
    exact hm
  | stopTask other task =>
    obtain rfl := hdeed
    obtain ⟨m, hm, hidle⟩ := h
    have hsame : (m.instrument.stopTask app.now task).2 = m.instrument :=
      Recording.apply_of_isIdle hidle (.stopTask app.now task)
    simp only [perform, meter?, hm, stopTask, hsame]
    exact ⟨_, _, modify_instrument hm⟩
  | _ => exact absurd hdeed id

/-- What an application does through the handle of an idle meter takes time and moves samples about,
and that is all. -/
theorem foldl_perform_through {app : Application} {handle : Nat}
    (h : app.registry.IdleAt handle) {deeds : List Deed} (hdeeds : ∀ d ∈ deeds, d.Through handle)
    (config : NewRelic.Config) :
    ∃ timers tasks,
      deeds.foldl (fun app deed => (app.perform config deed).2) app =
        app.holding (deeds.foldl Deed.pass app.clock) timers tasks := by
  induction deeds generalizing app with
  | nil => exact ⟨_, _, rfl⟩
  | cons deed rest ih =>
    obtain ⟨hdeed, hrest⟩ := List.forall_mem_cons.1 hdeeds
    obtain ⟨timers, tasks, hfirst⟩ := perform_through h hdeed config
    rw [List.foldl_cons, List.foldl_cons, hfirst]
    have hidle : (app.holding (deed.pass app.clock) timers tasks).registry.IdleAt handle := h
    exact ih hidle hrest

theorem registry_register (app : Application) (name : Option String)
    (request : MeterRequest World) (holds : Option Nat) :
    (app.register name request holds).1 = (app.registry.answer request).handle ∧
      (app.register name request holds).2.registry = (app.registry.answer request).registry := by
  cases name <;> exact ⟨rfl, rfl⟩

end Application

end Telemetry
