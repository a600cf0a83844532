import Telemetry.Application.Basic

/-!
# An application and its publishers

Publishing by hand, starting and stopping publishers, and letting time pass in which started ones
publish of their own accord. Each of these leaves the application at rest: sends have been answered,
and publishers have looked at what was asked of them. Two things do not give publishers the time to
look: to take up another publisher, perhaps under the name of a started one, and to publish by hand
without a runtime. What is left over then is made up for when the application settles next.

## Main definitions

* `Application.settle`: publishers look at what was asked of them.
* `Application.publish`: one publish of a publisher, with its sends.
* `Application.startPublisher`, `stopPublisher`, `closePublisher`, `releasePublisher`.
* `Application.sleep`: publishers publish when their steps are due.
-/

namespace Telemetry.Application

/-- A publisher by its number. -/
def hosted? (app : Application) (p : Nat) : Option Hosted := app.publishers[p]?

/-- Changes a publisher. -/
def modifyPublisher (app : Application) (p : Nat) (f : Hosted → Hosted) : Application :=
  { app with publishers := app.publishers.modify p f }

/-- A publisher makes a move, if it can. -/
def move (app : Application) (p : Nat) (m : Move) : Application :=
  app.modifyPublisher p fun h => { h with life := h.life.step m }

/-- Ends all sends of a publisher that are in flight, in their order, as its sender answers. -/
def answerAll (sender : Sender) : Nat → Exporter → Exporter × Sender × List LogEvent
  | 0, e => (e, sender, [])
  | n + 1, e =>
    let (answer, sender) := sender.answer
    let (e, events) := e.answered 0 answer
    let (e, sender, more) := answerAll sender n e
    (e, sender, events ++ more)

/-- One publish of a publisher, the deliveries to its sender, and the answers. No meter here watches
another meter, so all of them see the application as it was before. -/
def publishOnce (app : Application) (p : Nat) (h : Hosted) (runtime : Bool) :
    PublishSummary × Application :=
  let registered := app.registry.size
  let x := h.exporter.iterate app.registry (fun _ => app.world) app.now runtime
  let sender :=
    { h.sender with deliveries := h.sender.deliveries ++ x.handed.map (⟨·, registered⟩) }
  let (exporter, sender, outcomes) := answerAll sender x.exporter.inFlight x.exporter
  (x.summary,
   (({ app with registry := x.registry }.modifyPublisher p fun h =>
      { h with exporter := exporter, sender := sender }).logged x.events).logged outcomes)

/-- Publishes if the loop of a publisher has begun to, and tells what was done. -/
def publishIfBegun (app : Application) (p : Nat) : Option PublishSummary × Application :=
  match app.hosted? p with
  | none => (none, app)
  | some h =>
    if h.life.isPublishing then
      let (summary, app) := app.publishOnce p h true
      (some summary, app.move p .finish)
    else (none, app)

/-- Logs the end of a publisher whose loop has ended, and drops its alarm. -/
def retire (app : Application) (p : Nat) : Application :=
  match app.hosted? p with
  | none => app
  | some h =>
    if h.life.phase = .ended then
      { app with schedule := app.schedule.drop p }.logged [.stopped h.exporter.name]
    else app

/-- A waiting publisher looks at what was asked of it and does it. -/
def attend (app : Application) (p : Nat) : Application :=
  match app.hosted? p with
  | none => app
  | some h =>
    if h.life.isWaiting then
      ((((app.move p .observe).publishIfBegun p).2.move p .quit).move p .arm).retire p
    else app

/-- Every publisher looks at what was asked of it. -/
def settle (app : Application) : Application :=
  (List.range app.publishers.length).foldl attend app

/-- Publishes by hand with a publisher that has not been started. Without a runtime nothing else
gets to run. -/
def publish (app : Application) (p : Nat) (h : Hosted) (runtime : Bool) :
    PublishSummary × Application :=
  let set := fun (app : Application) (f : State → State) =>
    app.modifyPublisher p fun h => { h with life := { h.life with state := f h.life.state } }
  let (summary, app) := (set app (·.enter .publishing)).publishOnce p h runtime
  let app := set app (·.leave .publishing .idle)
  (summary, if runtime then app.settle else app)

/-- Takes up a publisher under a name. The handle of the publisher that had the name is dropped,
which that one will notice when the application settles. -/
def addPublisher (app : Application) (name : String) (exporter : Exporter) (clock : Option Clock)
    (script : List Answer) : Application :=
  let app := match app.publisherNames.get? name with
    | none => app
    | some old => app.move old .release
  { app with
    publishers := app.publishers ++ [⟨exporter, clock, Lifecycle.new, ⟨script, []⟩⟩]
    publisherNames := app.publisherNames.put name app.publishers.length }

/-- Starts a publisher: its first step is due just behind the next boundary on its clock, the others
follow as a ticker says. -/
def startPublisher (app : Application) (p : Nat) (h : Hosted) (ticker : Ticker := .impatient) :
    Application :=
  let config := h.exporter.config
  if config.enabled then
    let wall := (h.clock.getD app.clock).wallTime
    let due := app.milli * nanosPerMilli + delayToNextStep config.step wall
    ((({ app with schedule := app.schedule.add p due (ticker.period config.step) }.logged
      [.starting h.exporter.name config.step]).move p (.start true)).move p .arm).settle
  else ((app.logged [.disabled h.exporter.name]).move p (.start false)).settle

/-- Asks a publisher to stop. -/
def stopPublisher (app : Application) (p : Nat) : Application :=
  (app.move p (.ask .stop)).settle

/-- Drops the handle of a publisher. -/
def releasePublisher (app : Application) (p : Nat) : Application :=
  (app.move p .release).settle

/-- Asks a publisher to publish once more and stop, and gives up its handle. -/
def closePublisher (app : Application) (p : Nat) : Application :=
  ((app.move p (.ask .close)).move p .release).settle

/-- The step of a publisher that is due, and what the publisher did if it published. -/
def tick (app : Application) (p : Nat) : Option PublishSummary × Application :=
  let (summary, app) := (app.move p .tick).publishIfBegun p
  (summary, app.move p .arm)

/-- Lets time pass. Publishers whose steps are due meanwhile publish, one after another. -/
def sleep (app : Application) (millis : Nat) : Application :=
  let app := app.settle
  let milli := app.milli + millis
  let (due, schedule) := app.schedule.ringUntil milli
  due.foldl (fun app p => (app.tick p).2) { app with schedule := schedule, milli := milli }

/-- What the sender of a publisher was handed since it was last looked at. -/
def takeDeliveries (app : Application) (p : Nat) : List Delivery × Application :=
  match app.hosted? p with
  | none => ([], app)
  | some h =>
    (h.sender.deliveries,
     app.modifyPublisher p fun h => { h with sender := { h.sender with deliveries := [] } })

end Telemetry.Application
