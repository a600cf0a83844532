import Telemetry.Publish.StepConfig
import Telemetry.Statsd.Flavor

/-!
# Settings of the StatsD exporter

Where the lines go and how they are written. The settings of publishing stand among them.
-/

namespace Telemetry.Statsd

/-- How packets travel. -/
inductive Protocol
  | udp
  | tcp
deriving DecidableEq, Repr

/-- The name of a protocol. -/
def Protocol.name : Protocol → String
  | .udp => "udp"
  | .tcp => "tcp"

/-- The protocol with a given name. -/
def Protocol.ofName? (name : String) : Option Protocol :=
  [Protocol.udp, Protocol.tcp].find? (·.name == name)

/-- The settings of the StatsD exporter. -/
structure Config where
  step : StepConfig
  flavor : Flavor
  host : String
  port : Nat
  protocol : Protocol
  maxPacketLength : Nat
deriving DecidableEq

namespace Config

/-- Datadog lines to the agent on the same machine. -/
def default : Config := ⟨StepConfig.default, Flavor.default, "localhost", 8125, .udp, 1400⟩

instance : Inhabited Config := ⟨default⟩

/-- A host, a port and room in a packet are needed. -/
def validate (config : Config) : Except Error Unit := do
  config.step.validate
  requireText "host" config.host
  requirePositive "port" config.port
  requirePositive "max_packet_length" config.maxPacketLength

/-- Where the packets go. -/
def address (config : Config) : String :=
  config.protocol.name ++ "://" ++ config.host ++ ":" ++ toString config.port

/-- Reads the settings of the exporter. -/
def ofSettings? (format : SettingsFormat := .standard) (settings : Settings) : Option Config := do
  let step ← StepConfig.ofSettings? format settings
  let flavor ← settings.read format "flavor" default.flavor fun s => s.text?.bind Flavor.ofName?
  let host ← settings.read format "host" default.host Setting.text?
  let port ← settings.read format "port" default.port (Setting.numberBelow? UInt16.size)
  let protocol ←
    settings.read format "protocol" default.protocol fun s => s.choice?.bind Protocol.ofName?
  let maxPacketLength ←
    settings.read format "max_packet_length" default.maxPacketLength Setting.size?
  some ⟨step, flavor, host, port, protocol, maxPacketLength⟩

/-- Writes the settings of the exporter. -/
def toSettings (config : Config) (format : SettingsFormat := .standard) : Settings :=
  config.step.toSettings format ++
  [("flavor", .text config.flavor.name), ("host", .text config.host),
   ("port", .number config.port), ("protocol", .text config.protocol.name),
   ("max_packet_length", .number config.maxPacketLength)]

end Config

end Telemetry.Statsd
