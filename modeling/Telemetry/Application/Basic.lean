import Telemetry.Application.Exporter
import Telemetry.Application.World
import Telemetry.Meter.Reading
import Telemetry.Meter.Recording
import Telemetry.Meter.Request
import Telemetry.Publish.Schedule
import Telemetry.Registry.Search
import Telemetry.Time.Clock

/-!
# Applications

A program that measures itself: its registry and clock, the objects that meters watch, its
publishers, and the names under which it holds all of these. Time for publishing is counted apart
from the clock that meters are measured with, so that either can be moved alone.

## Main definitions

* `Application`: all of this, and what has been logged.
* `Hosted`: a publisher with its lifecycle and its sender.
* `Application.world`: what meters can watch at a moment.
* `Application.register` and others: what an application does with its meters.
-/

namespace Telemetry

/-- A list of things under names; the latest of a name comes first. -/
abbrev Names (α : Type) := List (String × α)

namespace Names

variable {α : Type}

/-- The thing under a name. -/
def get? (names : Names α) (name : String) : Option α := names.lookup name

/-- Puts a thing under a name; what was there is given up. -/
def put (names : Names α) (name : String) (thing : α) : Names α :=
  (name, thing) :: names.filter fun n => n.1 != name

/-- Gives up a name. -/
def remove (names : Names α) (name : String) : Names α := names.filter fun n => n.1 != name

end Names

/-- A payload as it was handed to the sender, and how many meters were registered then. -/
structure Delivery where
  payload : Payload
  registered : Nat

/-- The far end of a publisher: the answers that it will give, and what it has been handed since it
was last looked at. -/
structure Sender where
  script : List Answer
  deliveries : List Delivery

/-- The next answer of a sender. Behind its script it accepts everything. -/
def Sender.answer (s : Sender) : Answer × Sender :=
  match s.script with
  | [] => (.ok ⟨200, "code 200"⟩, s)
  | answer :: rest => (answer, { s with script := rest })

/-- A publisher of an application: the exporter, a clock of its own if it has one, where it is in
its life, and its sender. -/
structure Hosted where
  exporter : Exporter
  clock : Option Clock
  life : Lifecycle
  sender : Sender

/-- An object that meters watch, and whether the application itself holds it. -/
structure Held where
  observed : Observed
  held : Bool

/-- A task of a long task timer, in the hand of whoever started it. -/
structure TaskSample where
  meter : Nat
  task : UInt64

/-- A program that measures itself. -/
structure Application where
  registry : Registry World
  clock : Clock
  objects : List Held
  /-- Meters that hold the object they read from. -/
  keepers : List (Nat × Nat)
  publishers : List Hosted
  schedule : Schedule
  milli : Nat
  /-- How many conventions have been put in place. -/
  installed : Nat
  meterNames : Names Nat
  objectNames : Names Nat
  publisherNames : Names Nat
  timerSamples : Names UInt64
  taskSamples : Names TaskSample
  log : List LogEvent

namespace Application

/-- A program that has done nothing. -/
def start (enumeration : Enumeration := .asEntered) : Application :=
  { registry := Registry.empty enumeration, clock := Clock.start, objects := [], keepers := []
    publishers := [], schedule := Schedule.empty, milli := 0, installed := 0
    meterNames := [], objectNames := [], publisherNames := []
    timerSamples := [], taskSamples := [], log := [] }

instance : Inhabited Application := ⟨start⟩

/-- The moment on the monotonic clock. -/
def now (app : Application) : UInt64 := app.clock.monotonic

/-- Adds to the log. -/
def logged (app : Application) (events : List LogEvent) : Application :=
  { app with log := app.log ++ events }

/-- The log, and the application with an empty one. -/
def takeLog (app : Application) : List LogEvent × Application := (app.log, { app with log := [] })

/-- The next number of a convention. -/
def nextSerial (app : Application) : Nat × Application :=
  (app.installed + 1, { app with installed := app.installed + 1 })

/-! ## What meters watch -/

/-- Whether a meter is still of use: it is registered, or the application has a name for it. -/
def reaches (app : Application) (handle : Nat) : Bool :=
  app.registry.handles.contains handle || app.meterNames.any fun n => n.2 == handle

/-- Whether an object is there: the application holds it, or a meter that is still of use does. -/
def isThere (app : Application) (n : Nat) (object : Held) : Bool :=
  object.held || app.keepers.any fun k => k.2 == n && app.reaches k.1

/-- What meters can watch at this moment. -/
def world (app : Application) : World :=
  { objects := app.objects.mapIdx fun n object =>
      if app.isThere n object then some object.observed else none
    states := app.publishers.map fun p => if p.life.held then some p.life.state else none }

/-- Takes up an object under a name. The object that had the name is dropped. -/
def addObject (app : Application) (name : String) (observed : Observed) : Application :=
  let objects := match app.objectNames.get? name with
    | none => app.objects
    | some old => app.objects.modify old fun o => { o with held := false }
  { app with
    objects := objects ++ [⟨observed, true⟩]
    objectNames := app.objectNames.put name objects.length }

/-- Changes the numbers of an object. -/
def setObject (app : Application) (n : Nat) (change : Observed → Observed) : Application :=
  { app with objects := app.objects.modify n fun o => { o with observed := change o.observed } }

/-- Drops an object, if there is one under the name. -/
def dropObject (app : Application) (name : String) : Bool × Application :=
  match app.objectNames.get? name with
  | none => (false, app)
  | some n =>
    (true,
     { app with
       objects := app.objects.modify n fun o => { o with held := false }
       objectNames := app.objectNames.remove name })

/-! ## Meters -/

/-- The meter behind a handle. -/
def meter? (app : Application) (handle : Nat) : Option (Meter World) := app.registry.meter? handle

/-- Puts a meter under a name, if there is one. -/
def named (app : Application) (name : Option String) (handle : Nat) : Application :=
  match name with
  | none => app
  | some name => { app with meterNames := app.meterNames.put name handle }

/-- What is logged about a registration. -/
def registrationEvents (r : Registration World) : List LogEvent :=
  match r.outcome, r.registry.meter? r.handle with
  | .denied, some m => [.registrationDenied m.id]
  | _, _ => []

/-- Registers a meter, perhaps one that holds the object it reads from, and names it. -/
def register (app : Application) (name : Option String) (request : MeterRequest World)
    (holds : Option Nat) : Nat × Application :=
  let r := app.registry.register request.id request.recipe.instrument
  let keepers := match r.outcome, holds with
    | .created, some n => [(r.handle, n)]
    | _, _ => []
  (r.handle,
   ({ app with registry := r.registry, keepers := app.keepers ++ keepers }.logged
     (registrationEvents r)).named name r.handle)

/-- The meter of an id, or else a meter that was made before. Tells the handle and whether that
meter was put in. -/
def getOrCreate (app : Application) (name : Option String) (id : Id) (existing : Nat) :
    (Nat × Bool) × Application :=
  let r := app.registry.getOrCreate id (.existing existing)
  ((r.handle, r.outcome == .created),
   ({ app with registry := r.registry }.logged (registrationEvents r)).named name r.handle)

/-- Removes the meter of an identity. -/
def remove (app : Application) (identity : Identity) : Option (Meter World) × Application :=
  let (handle, registry) := app.registry.remove identity
  (handle.bind registry.meter?, { app with registry := registry })

/-- Removes all meters. -/
def clear (app : Application) : Application := { app with registry := app.registry.clear }

/-- Adds a filter. -/
def addFilter (app : Application) (f : Filter) : Application :=
  { app with registry := app.registry.addFilter f }

/-- Puts a convention in place. -/
def setConvention (app : Application) (convention : Convention) : Application :=
  let (serial, app) := app.nextSerial
  { app with registry := app.registry.setConvention ⟨serial, convention⟩ }

/-- Changes the instrument behind a handle. -/
def modify (app : Application) (handle : Nat) (f : Instrument World → Instrument World) :
    Application :=
  { app with registry := app.registry.modify handle f }

/-- What a meter shows at this moment. -/
def reading (app : Application) (m : Meter World) (unit : TimeUnit) : Reading :=
  m.instrument.reading unit app.world app.now

/-- The measurements of a meter, times in the given unit. -/
def measure (app : Application) (m : Meter World) (unit : TimeUnit) : List Measurement :=
  m.instrument.measure unit app.world app.now

/-! ## Time -/

/-- Moves the clock that meters are measured with. -/
def advance (app : Application) (by' : Span) : Application :=
  { app with clock := app.clock.advance by' }

/-- The time since a moment on the monotonic clock. -/
def elapsedSince (app : Application) (since : UInt64) : Span := Clock.elapsed app.now since

/-- Records in a timer how long an action took that did nothing but take time. -/
def time (app : Application) (handle : Nat) (takes : Span) : Application :=
  let started := app.now
  let app := app.advance takes
  app.modify handle (·.recordSpan (app.elapsedSince started))

/-- Starts measuring for a timer under a name. -/
def startSample (app : Application) (name : String) : Application :=
  { app with timerSamples := app.timerSamples.put name app.now }

/-- Ends measuring, records the time in a timer, and tells it. -/
def stopSample (app : Application) (handle : Nat) (name : String) (since : UInt64) :
    Span × Application :=
  let span := app.elapsedSince since
  (span,
   { app with timerSamples := app.timerSamples.remove name }.modify handle (·.recordSpan span))

/-- Starts a task of a long task timer under a name, and tells its number. -/
def startTask (app : Application) (handle : Nat) (m : Meter World) (name : String) :
    UInt64 × Application :=
  let (task, instrument) := m.instrument.startTask app.now
  (task,
   { app with taskSamples := app.taskSamples.put name ⟨handle, task⟩ }.modify handle
     fun _ => instrument)

/-- Ends a task of a long task timer, and tells how long it has been running if it was. -/
def stopTask (app : Application) (handle : Nat) (m : Meter World) (task : UInt64) :
    Option Span × Application :=
  let (span, instrument) := m.instrument.stopTask app.now task
  (span, app.modify handle fun _ => instrument)

end Application

end Telemetry
