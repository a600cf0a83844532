import Telemetry.Proofs.Application.Deeds
import Telemetry.Proofs.Publish.Relabel

/-!
# Applications with relabelled payloads

If all payloads of an application are relabelled, those in flight and those that its senders were
handed, then whatever the application does comes to the same, relabelled: its meters, its log, the
states of its publishers and their counters do not depend on the labels.

## Main definitions

- `Hosted.relabel`, `Application.relabel` — publishers and applications with relabelled payloads

## Main statements

- `Application.publishOnce_relabel` — one publish, with its sends
- `Application.perform_relabel` — one deed of any kind
- `Application.run_relabel` — whole runs
-/

namespace Telemetry

variable (label : Payload → Payload)

def Exporter.relabel : Exporter → Exporter
  | statsd p => statsd (p.relabel label)
  | newRelic p => newRelic (p.relabel label)
  | plain p => plain (p.relabel label)

def Exported.relabel {World : Type} (x : Exported World) : Exported World :=
  { x with exporter := x.exporter.relabel label, handed := x.handed.map label }

def Delivery.relabel (d : Delivery) : Delivery := { d with payload := label d.payload }

def Sender.relabel (s : Sender) : Sender :=
  { s with deliveries := s.deliveries.map (Delivery.relabel label) }

def Hosted.relabel (h : Hosted) : Hosted :=
  { h with exporter := h.exporter.relabel label, sender := h.sender.relabel label }

def Application.relabel (app : Application) : Application :=
  { app with publishers := app.publishers.map (Hosted.relabel label) }

namespace Exporter

variable (e : Exporter)

@[simp] theorem name_relabel : (e.relabel label).name = e.name := by cases e <;> rfl

@[simp] theorem config_relabel : (e.relabel label).config = e.config := by cases e <;> rfl

@[simp] theorem outline_relabel : (e.relabel label).outline = e.outline := by cases e <;> rfl

@[simp] theorem inFlight_relabel : (e.relabel label).inFlight = e.inFlight := by
  cases e <;> exact List.length_map ..

theorem iterate_relabel {World : Type} (r : Registry World) (look : Registry World → World)
    (now : UInt64) (runtime : Bool) :
    (e.relabel label).iterate r look now runtime =
      (e.iterate r look now runtime).relabel label := by
  cases e with
  | statsd p => exact congrArg (exported statsd) (p.iterate_relabel label r look now runtime)
  | newRelic p => exact congrArg (exported newRelic) (p.iterate_relabel label r look now runtime)
  | plain p => exact congrArg (exported plain) (p.iterate_relabel label r look now runtime)

variable {label} (hrecords : ∀ payload, (label payload).records = payload.records)

include hrecords

theorem answered_relabel (position : Nat) (answer : Answer) :
    (e.relabel label).answered position answer =
      ((e.answered position answer).1.relabel label, (e.answered position answer).2) := by
  cases e with
  | statsd p => simp only [relabel, answered, p.answered_relabel hrecords]
  | newRelic p => simp only [relabel, answered, p.answered_relabel hrecords]
  | plain p => simp only [relabel, answered, p.answered_relabel hrecords]

end Exporter

namespace Application

variable {label} (app : Application)

theorem hosted?_relabel (p : Nat) :
    (app.relabel label).hosted? p = (app.hosted? p).map (Hosted.relabel label) :=
  List.getElem?_map ..

theorem logged_relabel (events : List LogEvent) :
    (app.relabel label).logged events = (app.logged events).relabel label :=
  rfl

/-- A meter cannot see the payloads of a publisher. -/
theorem world_relabel : (app.relabel label).world = app.world := by
  have hstates : ((app.publishers.map (Hosted.relabel label)).map fun p =>
      if p.life.held then some p.life.state else none) =
        app.publishers.map fun p => if p.life.held then some p.life.state else none :=
    List.map_map
  exact congrArg (World.mk app.world.objects) hstates

theorem modifyPublisher_relabel {f g : Hosted → Hosted}
    (h : ∀ x, g (x.relabel label) = (f x).relabel label) (p : Nat) :
    (app.relabel label).modifyPublisher p g = (app.modifyPublisher p f).relabel label := by
  have hmodify : (app.publishers.map (Hosted.relabel label)).modify p g =
      (app.publishers.modify p f).map (Hosted.relabel label) := by
    apply List.ext_getElem?
    intro k
    by_cases hk : p = k <;> simp [hk, h, Function.comp_def]
  exact congrArg (fun publishers => { app with publishers := publishers }) hmodify

theorem modifyLife_relabel (change : Lifecycle → Lifecycle) (p : Nat) :
    (app.relabel label).modifyPublisher p (fun h => { h with life := change h.life }) =
      (app.modifyPublisher p fun h => { h with life := change h.life }).relabel label :=
  app.modifyPublisher_relabel (f := fun h => { h with life := change h.life }) (fun _ => rfl) p

theorem move_relabel (p : Nat) (m : Move) :
    (app.relabel label).move p m = (app.move p m).relabel label :=
  app.modifyLife_relabel (·.step m) p

/-- Changes the state of a publisher and nothing else of its life. -/
def changeState (app : Application) (p : Nat) (change : State → State) : Application :=
  app.modifyPublisher p fun h => { h with life := { h.life with state := change h.life.state } }

theorem changeState_relabel (change : State → State) (p : Nat) :
    (app.relabel label).changeState p change = (app.changeState p change).relabel label :=
  app.modifyLife_relabel (fun life => { life with state := change life.state }) p

theorem publish_eq (p : Nat) (h : Hosted) (runtime : Bool) :
    app.publish p h runtime =
      (let x := (app.changeState p (·.enter .publishing)).publishOnce p h runtime
      let app := x.2.changeState p (·.leave .publishing .idle)
      (x.1, if runtime then app.settle else app)) :=
  rfl

theorem foldl_relabel {f : Application → Nat → Application}
    (h : ∀ app p, f (app.relabel label) p = (f app p).relabel label) (publishers : List Nat) :
    publishers.foldl f (app.relabel label) = (publishers.foldl f app).relabel label := by
  induction publishers generalizing app with
  | nil => rfl
  | cons p rest ih => rw [List.foldl_cons, List.foldl_cons, h, ih]

/-- The first step of a publisher that starts is in the schedule, and its start in the log. -/
def alarmed (app : Application) (p : Nat) (h : Hosted) (ticker : Ticker) : Application :=
  let config := h.exporter.config
  let due := app.milli * nanosPerMilli +
    delayToNextStep config.step (h.clock.getD app.clock).wallTime
  { app with schedule := app.schedule.add p due (ticker.period config.step) }.logged
    [.starting h.exporter.name config.step]

theorem startPublisher_eq (p : Nat) (h : Hosted) (ticker : Ticker) :
    app.startPublisher p h ticker =
      if h.exporter.config.enabled then
        (((app.alarmed p h ticker).move p (.start true)).move p .arm).settle
      else ((app.logged [.disabled h.exporter.name]).move p (.start false)).settle :=
  rfl

/-- Time has passed, and the alarms that have rung are set to their next steps. -/
def elapsed (app : Application) (millis : Nat) : Application :=
  let milli := app.milli + millis
  { app with schedule := (app.schedule.ringUntil milli).2, milli := milli }

theorem sleep_eq (millis : Nat) :
    app.sleep millis =
      (app.settle.schedule.ringUntil (app.settle.milli + millis)).1.foldl
        (fun app p => (app.tick p).2) (app.settle.elapsed millis) :=
  rfl

/-- Only a publisher that has been found does anything. -/
theorem whenHosted_relabel {f g : Hosted → Application} {p : Nat}
    (h : ∀ x, g (x.relabel label) = (f x).relabel label) :
    (match (app.relabel label).hosted? p with
      | none => app.relabel label
      | some x => g x) =
      (match app.hosted? p with
        | none => app
        | some x => f x).relabel label := by
  rw [hosted?_relabel]
  cases app.hosted? p with
  | none => rfl
  | some x => exact h x

theorem retire_relabel (p : Nat) : (app.relabel label).retire p = (app.retire p).relabel label := by
  refine app.whenHosted_relabel fun h => ?_
  rw [Hosted.relabel, Exporter.name_relabel]
  split <;> rfl

/-- The application without the handle of the publisher that has a name. -/
def released (app : Application) (name : String) : Application :=
  match app.publisherNames.get? name with
  | none => app
  | some old => app.move old .release

def enlisted (app : Application) (name : String) (h : Hosted) : Application :=
  { app with
    publishers := app.publishers ++ [h]
    publisherNames := app.publisherNames.put name app.publishers.length }

theorem addPublisher_eq (name : String) (exporter : Exporter) (clock : Option Clock)
    (script : List Answer) :
    app.addPublisher name exporter clock script =
      (app.released name).enlisted name ⟨exporter, clock, Lifecycle.new, ⟨script, []⟩⟩ :=
  rfl

theorem released_relabel (name : String) :
    (app.relabel label).released name = (app.released name).relabel label := by
  unfold released
  change (match app.publisherNames.get? name with
    | none => app.relabel label
    | some old => (app.relabel label).move old .release) = _
  cases app.publisherNames.get? name with
  | none => rfl
  | some old => exact app.move_relabel old .release

theorem enlisted_relabel (name : String) (h : Hosted) :
    (app.relabel label).enlisted name (h.relabel label) = (app.enlisted name h).relabel label := by
  simp [enlisted, relabel]

theorem addPublisher_relabel (name : String) (exporter : Exporter) (clock : Option Clock)
    (script : List Answer) :
    (app.relabel label).addPublisher name (exporter.relabel label) clock script =
      (app.addPublisher name exporter clock script).relabel label := by
  rw [addPublisher_eq, released_relabel]
  exact enlisted_relabel (app.released name) name ⟨exporter, clock, Lifecycle.new, ⟨script, []⟩⟩

section Sends

variable (hrecords : ∀ payload, (label payload).records = payload.records)

include hrecords

theorem answerAll_relabel (sender : Sender) (n : Nat) (e : Exporter) :
    answerAll (sender.relabel label) n (e.relabel label) =
      ((answerAll sender n e).1.relabel label, (answerAll sender n e).2.1.relabel label,
        (answerAll sender n e).2.2) := by
  induction n generalizing sender e with
  | zero => rfl
  | succ n ih =>
    have hanswer : (sender.relabel label).answer =
        (sender.answer.1, sender.answer.2.relabel label) := by
      unfold Sender.answer
      cases hscript : sender.script <;> simp [Sender.relabel, hscript]
    simp only [answerAll, hanswer, e.answered_relabel hrecords, ih]

/-- A publish with relabelled payloads does the same, and hands over and logs the same. -/
theorem publishOnce_relabel (p : Nat) (h : Hosted) (runtime : Bool) :
    (app.relabel label).publishOnce p (h.relabel label) runtime =
      ((app.publishOnce p h runtime).1, (app.publishOnce p h runtime).2.relabel label) := by
  have hpublish : (h.relabel label).exporter.iterate (app.relabel label).registry
      (fun _ => (app.relabel label).world) (app.relabel label).now runtime =
        (h.exporter.iterate app.registry (fun _ => app.world) app.now runtime).relabel label := by
    rw [world_relabel]
    exact h.exporter.iterate_relabel label ..
  simp only [publishOnce, hpublish]
  generalize h.exporter.iterate app.registry (fun _ => app.world) app.now runtime = x
  have hinFlight : (x.relabel label).exporter.inFlight = x.exporter.inFlight :=
    x.exporter.inFlight_relabel label
  have hsender : { (h.relabel label).sender with
      deliveries := (h.relabel label).sender.deliveries ++
        (x.relabel label).handed.map (⟨·, app.registry.size⟩) } =
        Sender.relabel label { h.sender with
          deliveries := h.sender.deliveries ++ x.handed.map (⟨·, app.registry.size⟩) } := by
    simp [Hosted.relabel, Sender.relabel, Exported.relabel, Delivery.relabel]
  have hanswers := answerAll_relabel hrecords { h.sender with
    deliveries := h.sender.deliveries ++ x.handed.map (⟨·, app.registry.size⟩) }
    x.exporter.inFlight x.exporter
  have hregistry : (app.relabel label).registry = app.registry := rfl
  rw [hinFlight]
  simp only [hregistry, hsender]
  have hexporter : (x.relabel label).exporter = x.exporter.relabel label := rfl
  rw [hexporter, hanswers]
  generalize answerAll _ x.exporter.inFlight x.exporter = y
  have hmodify := modifyPublisher_relabel { app with registry := x.registry }
    (f := fun h => { h with exporter := y.1, sender := y.2.1 })
    (g := fun h => { h with exporter := y.1.relabel label, sender := y.2.1.relabel label })
    (fun _ => rfl) p
  exact congrArg (fun app => (x.summary, (logged app x.events).logged y.2.2)) hmodify

theorem publishIfBegun_relabel (p : Nat) :
    (app.relabel label).publishIfBegun p =
      ((app.publishIfBegun p).1, (app.publishIfBegun p).2.relabel label) := by
  unfold publishIfBegun
  rw [hosted?_relabel]
  cases app.hosted? p with
  | none => rfl
  | some h =>
    have hlife : (h.relabel label).life = h.life := rfl
    simp only [Option.map_some, hlife, publishOnce_relabel app hrecords, move_relabel]
    split <;> rfl

theorem attend_relabel (p : Nat) : (app.relabel label).attend p = (app.attend p).relabel label := by
  refine app.whenHosted_relabel fun h => ?_
  have hlife : (h.relabel label).life = h.life := rfl
  rw [hlife]
  split
  · rw [move_relabel, publishIfBegun_relabel _ hrecords, move_relabel, move_relabel, retire_relabel]
  · rfl

theorem settle_relabel : (app.relabel label).settle = app.settle.relabel label := by
  have hnumber : (app.relabel label).publishers.length = app.publishers.length := List.length_map ..
  rw [settle, hnumber]
  exact app.foldl_relabel (fun app => app.attend_relabel hrecords) _

theorem publish_relabel (p : Nat) (h : Hosted) (runtime : Bool) :
    (app.relabel label).publish p (h.relabel label) runtime =
      ((app.publish p h runtime).1, (app.publish p h runtime).2.relabel label) := by
  simp only [publish_eq, changeState_relabel, publishOnce_relabel _ hrecords]
  cases runtime with
  | true => exact congrArg (Prod.mk _) (settle_relabel _ hrecords)
  | false => rfl

theorem startPublisher_relabel (p : Nat) (h : Hosted) (ticker : Ticker) :
    (app.relabel label).startPublisher p (h.relabel label) ticker =
      (app.startPublisher p h ticker).relabel label := by
  have hconfig : (h.relabel label).exporter.config = h.exporter.config :=
    h.exporter.config_relabel label
  have hname : (h.relabel label).exporter.name = h.exporter.name := h.exporter.name_relabel label
  have halarm : (app.relabel label).alarmed p (h.relabel label) ticker =
      (app.alarmed p h ticker).relabel label := by
    unfold alarmed
    rw [hconfig, hname]
    rfl
  rw [startPublisher_eq, startPublisher_eq, hconfig, hname]
  split
  · rw [halarm, move_relabel, move_relabel, settle_relabel _ hrecords]
  · rw [logged_relabel, move_relabel, settle_relabel _ hrecords]

theorem stopPublisher_relabel (p : Nat) :
    (app.relabel label).stopPublisher p = (app.stopPublisher p).relabel label := by
  rw [stopPublisher, move_relabel, settle_relabel _ hrecords]
  rfl

theorem releasePublisher_relabel (p : Nat) :
    (app.relabel label).releasePublisher p = (app.releasePublisher p).relabel label := by
  rw [releasePublisher, move_relabel, settle_relabel _ hrecords]
  rfl

theorem closePublisher_relabel (p : Nat) :
    (app.relabel label).closePublisher p = (app.closePublisher p).relabel label := by
  rw [closePublisher, move_relabel, move_relabel, settle_relabel _ hrecords]
  rfl

theorem tick_relabel (p : Nat) :
    (app.relabel label).tick p = ((app.tick p).1, (app.tick p).2.relabel label) := by
  simp only [tick, move_relabel, publishIfBegun_relabel _ hrecords]

theorem sleep_relabel (millis : Nat) :
    (app.relabel label).sleep millis = (app.sleep millis).relabel label := by
  rw [sleep_eq, sleep_eq, settle_relabel _ hrecords]
  exact foldl_relabel (app.settle.elapsed millis)
    (fun app p => congrArg Prod.snd (app.tick_relabel hrecords p)) _

end Sends

/-! ## Deeds and runs -/

theorem host_relabel {make make' : Nat → Except Error Exporter}
    (hmake : ∀ serial, make' serial = (make serial).map (Exporter.relabel label)) (name : String)
    (clock : Option Clock) (script : List Answer) :
    (app.relabel label).host name make' clock script =
      (app.host name make clock script).relabel label := by
  have hserial : (app.relabel label).nextSerial =
      (app.nextSerial.1, app.nextSerial.2.relabel label) := rfl
  unfold host
  rw [hserial, hmake]
  cases make app.nextSerial.1 with
  | error e => rfl
  | ok exporter => exact app.nextSerial.2.addPublisher_relabel name exporter clock script

section Runs

variable {config config' : NewRelic.Config}
  (hrecords : ∀ payload, (label payload).records = payload.records) (hmake : ∀ hosting serial,
  Hosting.make config' hosting serial =
    (Hosting.make config hosting serial).map (Exporter.relabel label))

include hrecords hmake

/-- The same deed does the same, under other labels. -/
theorem perform_relabel (deed : Deed) :
    (app.relabel label).perform config' deed =
      ((app.perform config deed).1, (app.perform config deed).2.relabel label) := by
  cases deed with
  | host name hosting clock script =>
    simp only [perform, app.host_relabel (hmake hosting)]
  | publish p runtime =>
    simp only [perform, hosted?_relabel]
    cases app.hosted? p with
    | none => rfl
    | some h => simp only [Option.map_some, app.publish_relabel hrecords]
  | start p ticker =>
    simp only [perform, hosted?_relabel]
    cases app.hosted? p with
    | none => rfl
    | some h => simp only [Option.map_some, app.startPublisher_relabel hrecords]
  | stop p => simp only [perform, app.stopPublisher_relabel hrecords]
  | close p => simp only [perform, app.closePublisher_relabel hrecords]
  | release p => simp only [perform, app.releasePublisher_relabel hrecords]
  | sleep millis => simp only [perform, app.sleep_relabel hrecords]
  | register name request holds => cases name <;> rfl
  | getOrCreate name id existing => cases name <;> rfl
  | addObject name observed => rfl
  | dropObject name =>
    have hname : (app.relabel label).objectNames = app.objectNames := rfl
    simp only [perform, dropObject, hname]
    split <;> rfl
  | stopSample handle name =>
    have hname : (app.relabel label).timerSamples = app.timerSamples := rfl
    simp only [perform, hname]
    split <;> rfl
  | startTask handle name =>
    have hmeter : (app.relabel label).meter? handle = app.meter? handle := rfl
    simp only [perform, hmeter]
    split <;> rfl
  | stopTask handle task =>
    have hmeter : (app.relabel label).meter? handle = app.meter? handle := rfl
    simp only [perform, hmeter]
    split <;> rfl
  | _ => rfl

/-- The same run comes to the same, under other labels. -/
theorem run_relabel (deeds : List Deed) (enumeration : Enumeration) :
    Application.run config' deeds enumeration =
      ((Application.run config deeds enumeration).1,
        (Application.run config deeds enumeration).2.relabel label) := by
  have hfold (x : Outcome) :
      deeds.foldl (Outcome.next config') (x.1, x.2.relabel label) =
        ((deeds.foldl (Outcome.next config) x).1,
          (deeds.foldl (Outcome.next config) x).2.relabel label) := by
    induction deeds generalizing x with
    | nil => rfl
    | cons deed rest ih =>
      have hnext : Outcome.next config' (x.1, x.2.relabel label) deed =
          ((x.next config deed).1, (x.next config deed).2.relabel label) := by
        simp only [Outcome.next, x.2.perform_relabel hrecords hmake]
      rw [List.foldl_cons, List.foldl_cons, hnext, ih]
  exact hfold ([], start enumeration)

end Runs

end Application

end Telemetry
