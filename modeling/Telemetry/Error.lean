/-!
# Errors

What can go wrong when an exporter is set up or a batch is encoded, and when a payload is sent.
Measuring never fails.
-/

namespace Telemetry

/-- Why an exporter cannot be set up, or a batch cannot be encoded. -/
inductive Error
  /-- A setting that is needed is absent or blank. -/
  | missing (key : String)
  /-- A setting has a value that cannot be used. -/
  | invalid (key problem : String)
  /-- A batch of records cannot be turned into payloads. -/
  | encoding (backend problem : String)
deriving DecidableEq, Repr

/-- The message of an error. -/
def Error.message : Error → String
  | .missing key => "missing required configuration: '" ++ key ++ "' must be set"
  | .invalid key problem => "invalid configuration: '" ++ key ++ "' is invalid: " ++ problem
  | .encoding backend problem =>
    "failed to encode payload for " ++ backend ++ ": " ++ problem

/-- Why a payload could not be sent: what the transport said. -/
structure SendError where
  cause : String
deriving DecidableEq, Repr

/-- The message of a failed send. -/
def SendError.message (e : SendError) : String := "transport failed: " ++ e.cause

end Telemetry
