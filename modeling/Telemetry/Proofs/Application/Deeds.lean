import Telemetry.Application.Publishing

/-!
# What an application does

A run of an application: it makes and removes meters and records in them, takes up publishers and
starts, stops and closes them, publishes by hand, and lets time pass in which the publishers publish.
The settings of the New Relic exporter are those of the run, so that runs can be compared in which
the same is done with other settings. Neither the log nor what the senders were handed is ever given
away, so at the end of a run both are complete.

## Main definitions

- `Hosting` — the exporters that an application may take up
- `Deed` — one thing that an application does; `Application.perform` does it
- `Application.run` — a whole run from the start, with the summaries of the publishes made by hand
-/

namespace Telemetry

/-- The exporter of a publisher that is taken up. -/
inductive Hosting
  | newRelic
  | statsd (config : Statsd.Config)
  | plain (config : Plain.Config) (step : StepConfig)

/-- The exporter for a number of its preferred convention, if its settings can be used. -/
def Hosting.make (config : NewRelic.Config) : Hosting → Nat → Except Error Exporter
  | newRelic, serial => (NewRelic.publisher? config serial).map .newRelic
  | statsd c, serial => (Statsd.publisher? c serial).map .statsd
  | plain c step, serial => (Publisher.new (Plain.backend c) step serial).map .plain

/-- One thing that an application does. -/
inductive Deed
  | register (name : Option String) (request : MeterRequest World) (holds : Option Nat)
  | getOrCreate (name : Option String) (id : Id) (existing : Nat)
  | remove (identity : Identity)
  | clear
  | addFilter (f : Filter)
  | setConvention (convention : Convention)
  | addObject (name : String) (observed : Observed)
  | setObject (n : Nat) (change : Observed → Observed)
  | dropObject (name : String)
  | modify (handle : Nat) (change : Instrument World → Instrument World)
  | advance (by' : Span)
  | time (handle : Nat) (takes : Span)
  | startSample (name : String)
  | stopSample (handle : Nat) (name : String)
  | startTask (handle : Nat) (name : String)
  | stopTask (handle : Nat) (task : UInt64)
  | host (name : String) (hosting : Hosting) (clock : Option Clock) (script : List Answer)
  | publish (p : Nat) (runtime : Bool)
  | start (p : Nat) (ticker : Ticker := .impatient)
  | stop (p : Nat)
  | close (p : Nat)
  | release (p : Nat)
  | sleep (millis : Nat)

namespace Application

/-- Takes up a publisher if it can be made. -/
def host (app : Application) (name : String) (make : Nat → Except Error Exporter)
    (clock : Option Clock) (script : List Answer) : Application :=
  match make app.nextSerial.1 with
  | .error _ => app
  | .ok exporter => app.nextSerial.2.addPublisher name exporter clock script

/-- Does one thing; what cannot be done is left alone. Of a publish by hand the summary is kept. -/
def perform (config : NewRelic.Config) (app : Application) :
    Deed → Option PublishSummary × Application
  | .register name request holds => (none, (app.register name request holds).2)
  | .getOrCreate name id existing => (none, (app.getOrCreate name id existing).2)
  | .remove identity => (none, (app.remove identity).2)
  | .clear => (none, app.clear)
  | .addFilter f => (none, app.addFilter f)
  | .setConvention convention => (none, app.setConvention convention)
  | .addObject name observed => (none, app.addObject name observed)
  | .setObject n change => (none, app.setObject n change)
  | .dropObject name => (none, (app.dropObject name).2)
  | .modify handle change => (none, app.modify handle change)
  | .advance by' => (none, app.advance by')
  | .time handle takes => (none, app.time handle takes)
  | .startSample name => (none, app.startSample name)
  | .stopSample handle name =>
    match app.timerSamples.get? name with
    | none => (none, app)
    | some since => (none, (app.stopSample handle name since).2)
  | .startTask handle name =>
    match app.meter? handle with
    | none => (none, app)
    | some m => (none, (app.startTask handle m name).2)
  | .stopTask handle task =>
    match app.meter? handle with
    | none => (none, app)
    | some m => (none, (app.stopTask handle m task).2)
  | .host name hosting clock script => (none, app.host name (hosting.make config) clock script)
  | .publish p runtime =>
    match app.hosted? p with
    | none => (none, app)
    | some h =>
      let (summary, app) := app.publish p h runtime
      (some summary, app)
  | .start p ticker =>
    match app.hosted? p with
    | none => (none, app)
    | some h => (none, app.startPublisher p h ticker)
  | .stop p => (none, app.stopPublisher p)
  | .close p => (none, app.closePublisher p)
  | .release p => (none, app.releasePublisher p)
  | .sleep millis => (none, app.sleep millis)

/-- What a run has come to: the summaries of the publishes made by hand, and the application. -/
abbrev Outcome := List PublishSummary × Application

def Outcome.next (config : NewRelic.Config) (x : Outcome) (deed : Deed) : Outcome :=
  let (summary, app) := x.2.perform config deed
  (x.1 ++ summary.toList, app)

/-- A run from the start. -/
def run (config : NewRelic.Config) (deeds : List Deed) (enumeration : Enumeration := .asEntered) :
    Outcome :=
  deeds.foldl (Outcome.next config) ([], Application.start enumeration)

end Application

end Telemetry
