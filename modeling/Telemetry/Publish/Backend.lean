import Telemetry.Meter.Snapshot
import Telemetry.Naming.Convention
import Telemetry.Publish.Log

/-!
# Backends

A backend knows a monitoring service: how a meter is written as records, and how records are packed
into payloads. It may keep what it has written in a cache, which must not change what it writes.
-/

namespace Telemetry

/-- What a backend writes for one meter: its records, the cache after it, and what is logged. -/
structure Written (Record Cache : Type) where
  records : List Record
  cache : Cache
  events : List LogEvent

/-- What becomes of a list of records: payloads or an error, and what is logged. -/
structure Encoded where
  result : Except Error (List Payload)
  events : List LogEvent

/-- How one monitoring service is served. -/
structure Backend (Record Cache : Type) where
  /-- The name in log lines. -/
  name : String
  /-- The unit of times. -/
  unit : TimeUnit
  /-- The convention for registries that have none of their own. -/
  preferred : Option Convention
  /-- The cache before anything has been written. -/
  fresh : Cache
  /-- The records of a meter, given by its id and the form of its instrument. -/
  write : Cache → Id → Kind → Snapshot → Installed → Written Record Cache
  /-- The payloads of a batch. -/
  encode : List Record → Encoded
  /-- The cache with what concerns the given identities only. -/
  retain : Cache → List Identity → Cache

end Telemetry
