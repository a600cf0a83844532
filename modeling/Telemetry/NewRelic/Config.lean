import Telemetry.Publish.StepConfig

/-!
# Settings of the New Relic exporter

The account, the key with which events are inserted, and the type of the events. The settings of
publishing stand among them. The key is a secret and never shows in an outline.
-/

namespace Telemetry.NewRelic

/-- The most events that one request may hold. -/
def maxEventsPerRequest : Nat := 1000

/-- The settings of the New Relic exporter. -/
structure Config where
  step : StepConfig
  accountId : String
  apiKey : String
  uri : String
  eventType : String
  meterNameEventTypeEnabled : Bool
deriving DecidableEq

namespace Config

/-- Events of one type for the public collector; account and key have to be given. -/
def default : Config :=
  ⟨StepConfig.default, "", "", "https://insights-collector.newrelic.com", "VernierSample", false⟩

instance : Inhabited Config := ⟨default⟩

/-- Account, key and collector are needed, and a type unless every meter's name is one. -/
def validate (config : Config) : Except Error Unit := do
  config.step.validate
  if config.meterNameEventTypeEnabled then pure () else requireText "event_type" config.eventType
  requireText "account_id" config.accountId
  requireText "api_key" config.apiKey
  requireText "uri" config.uri

/-- The collector's address without slashes at its end. -/
def collector (config : Config) : String :=
  String.ofList (config.uri.toList.reverse.dropWhile (· == '/')).reverse

/-- Where events are sent. -/
def endpoint (config : Config) : String :=
  config.collector ++ "/v1/accounts/" ++ config.accountId ++ "/events"

/-- The settings of publishing with batches that make up at most one request. -/
def cappedStep (config : Config) : StepConfig :=
  { config.step with batchSize := min config.step.batchSize maxEventsPerRequest }

/-- Reads the settings of the exporter. -/
def ofSettings? (format : SettingsFormat := .standard) (settings : Settings) : Option Config := do
  let step ← StepConfig.ofSettings? format settings
  let accountId ← settings.read format "account_id" default.accountId Setting.text?
  let apiKey ← settings.read format "api_key" default.apiKey Setting.text?
  let uri ← settings.read format "uri" default.uri Setting.text?
  let eventType ← settings.read format "event_type" default.eventType Setting.text?
  let byName ← settings.read format "meter_name_event_type_enabled"
    default.meterNameEventTypeEnabled Setting.flag?
  some ⟨step, accountId, apiKey, uri, eventType, byName⟩

/-- Writes the settings of the exporter. -/
def toSettings (config : Config) (format : SettingsFormat := .standard) : Settings :=
  config.step.toSettings format ++
  [("account_id", .text config.accountId), ("api_key", .text config.apiKey),
   ("uri", .text config.uri), ("event_type", .text config.eventType),
   ("meter_name_event_type_enabled", .flag config.meterNameEventTypeEnabled)]

/-- The outline of the settings, without the key. -/
def outline (config : Config) : String :=
  Outline.record "NewRelicConfig"
    [("step", config.step.outline), ("account_id", Outline.text config.accountId),
     ("api_key", Outline.text "<redacted>"), ("uri", Outline.text config.uri),
     ("event_type", Outline.text config.eventType),
     ("meter_name_event_type_enabled", Outline.flag config.meterNameEventTypeEnabled)]

end Config

end Telemetry.NewRelic
