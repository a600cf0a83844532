import Telemetry.Naming.Shelf
import Telemetry.NewRelic.Config
import Telemetry.NewRelic.Event
import Telemetry.NewRelic.Naming
import Telemetry.Publish.Publisher

/-!
# The New Relic backend

Meters as events, and a batch of events as one request that carries the insert key.
-/

namespace Telemetry.NewRelic

/-- The type that all events share, unless every meter's name is the type of its event. -/
def sharedType (config : Config) : Option String :=
  if config.meterNameEventTypeEnabled then none else some config.eventType

/-- The event of a meter, if it has one. -/
def writeMeter (config : Config) (shelf : Shelf Fragments) (id : Id) (form : Kind)
    (snapshot : Snapshot) (installed : Installed) : Written Json.Object (Shelf Fragments) :=
  match attributes? .seconds form snapshot with
  | none => ⟨[], shelf, [.eventOmitted id]⟩
  | some attributes =>
    let (rendered, cache, _) := (shelf.cacheFor id).render renderRules installed
    ⟨[event (sharedType config) rendered.fragments attributes], shelf.store cache, []⟩

/-- The request for a batch of events. -/
def payload (config : Config) (events : List Json.Object) : Payload :=
  (((Payload.new (Json.writeArray events) events.length).withUri config.endpoint).withHeader
    "X-Insert-Key" config.apiKey).withContentType "application/json"

/-- The New Relic backend of a configuration. -/
def backend (config : Config) : Backend Json.Object (Shelf Fragments) where
  name := "newrelic"
  unit := .seconds
  preferred := some convention
  fresh := []
  write := writeMeter config
  encode events := ⟨.ok [payload config events], []⟩
  retain := Shelf.retain

/-- The New Relic backend of a configuration that can be used. -/
def backend? (config : Config) : Except Error (Backend Json.Object (Shelf Fragments)) := do
  config.validate
  pure (backend config)

/-- A publisher to New Relic, if the configuration can be used. Its batches are capped, so that
each makes up one request. -/
def publisher? (config : Config) (serial : Nat) :
    Except Error (Publisher Json.Object (Shelf Fragments)) := do
  let backend ← backend? config
  Publisher.new backend config.cappedStep serial

/-- The outline of the backend of a configuration. The key does not show. -/
def backendOutline (config : Config) : String :=
  Outline.openRecord "NewRelicBackend"
    [("event_type", Outline.optional ((sharedType config).map Outline.text)),
     ("endpoint", Outline.text config.endpoint)]

end Telemetry.NewRelic
