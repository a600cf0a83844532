import Telemetry.Identity.Id
import Telemetry.Publish.Payload
import Telemetry.Time.Span

/-!
# Log lines

What is worth telling whoever operates an application: a denied registration, a publish, the end of
a send, the beginning and the end of a publisher.
-/

namespace Telemetry

/-- How much a log line matters. -/
inductive Level
  | debug
  | info
  | warn
  | error
deriving DecidableEq, Repr

/-- The name of a level. -/
def Level.name : Level → String
  | .debug => "DEBUG"
  | .info => "INFO"
  | .warn => "WARN"
  | .error => "ERROR"

/-- Something that is logged. -/
inductive LogEvent
  | registrationDenied (meter : Id)
  | published (backend : String) (meters batches payloads : Nat)
  | sent (backend : String) (records : Nat)
  | rejected (backend : String) (response : Response)
  | sendFailed (backend : String) (error : SendError)
  | dropped (backend : String)
  | encodingFailed (backend : String) (error : Error)
  | longLine (length limit : Nat)
  | eventOmitted (meter : Id)
  | starting (backend : String) (step : Span)
  | disabled (backend : String)
  | stopped (backend : String)
deriving DecidableEq

namespace LogEvent

/-- How much an event matters. -/
def level : LogEvent → Level
  | registrationDenied _ | published .. | sent .. | eventOmitted _ => .debug
  | rejected .. => .error
  | sendFailed .. | dropped _ | encodingFailed .. | longLine .. => .warn
  | starting .. | disabled _ | stopped _ => .info

/-- What happened. -/
def message : LogEvent → String
  | registrationDenied _ => "meter registration denied by filter"
  | published .. => "published step"
  | sent .. => "payload sent"
  | rejected .. => "backend rejected payload"
  | sendFailed .. => "failed to send payload"
  | dropped _ => "no Tokio runtime available, payload dropped"
  | encodingFailed .. => "failed to encode batch, its meters are not published this step"
  | longLine .. => "StatsD line longer than the maximum packet length, sending it on its own"
  | eventOmitted _ => "omitting New Relic event without finite attribute values"
  | starting .. => "starting publisher"
  | disabled _ => "publishing is disabled"
  | stopped _ => "publisher stopped"

/-- To whom and with which numbers it happened. -/
def fields : LogEvent → List (String × String)
  | registrationDenied meter => [("meter", meter.text)]
  | published backend meters batches payloads =>
    [("backend", backend), ("meters", toString meters), ("batches", toString batches),
     ("payloads", toString payloads)]
  | sent backend records => [("backend", backend), ("records", toString records)]
  | rejected backend response =>
    [("backend", backend), ("code", toString response.code), ("body", response.body)]
  | sendFailed backend error => [("backend", backend), ("error", error.message)]
  | dropped backend => [("backend", backend)]
  | encodingFailed backend error => [("backend", backend), ("error", error.message)]
  | longLine length limit =>
    [("length", toString length), ("max_packet_length", toString limit)]
  | eventOmitted meter => [("meter", meter.text)]
  | starting backend step => [("backend", backend), ("step", step.outline)]
  | disabled backend => [("backend", backend)]
  | stopped backend => [("backend", backend)]

/-- The line that is logged: level, message and fields. -/
def line (e : LogEvent) : String :=
  " ".intercalate (e.level.name :: e.message :: e.fields.map fun f => f.1 ++ "=" ++ f.2)

/-- Whether an event tells how a send ended. -/
def isSendOutcome : LogEvent → Bool
  | sent .. | rejected .. | sendFailed .. => true
  | _ => false

end LogEvent

end Telemetry
