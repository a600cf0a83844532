import Telemetry.Decimal.Notation
import Telemetry.Publish.Backend

/-!
# The plain text backend

Meters as lines for people: name, tags, kind, measurements and histogram, with bars between them. It
has no cache. It serves any unit and convention, and can be told to refuse every batch.
-/

namespace Telemetry.Plain

/-- The settings of the plain text backend. -/
structure Config where
  unit : TimeUnit
  preferred : Option Convention
  refuses : Bool

/-- A number as it stands in a line. -/
def amount (x : Float) : String := Decimal.plain.write x

/-- The buckets of a histogram: bound, own count and cumulative count of each. -/
def histogramText (buckets : List Bucket) : String :=
  ",".intercalate ((buckets.zip (cumulative buckets)).map fun b =>
    amount b.1.upperBound ++ ":" ++ toString b.1.count.toNat ++ "/" ++ toString b.2.count.toNat)

/-- The line of a meter. -/
def line (id : Id) (snapshot : Snapshot) (convention : Convention) : String :=
  "|".intercalate
    [id.conventionName convention,
     ",".intercalate ((id.conventionTags convention).map fun t => t.1 ++ "=" ++ t.2),
     id.kind.name,
     ",".intercalate (snapshot.measurements.map fun m => m.statistic.name ++ "=" ++ amount m.value),
     match snapshot.histogram with
     | none => "-"
     | some buckets => histogramText buckets]

/-- The payload of a batch. -/
def payload (lines : List String) : Payload :=
  Payload.new ("\n".intercalate lines) lines.length

/-- The plain text backend. -/
def backend (config : Config) : Backend String Unit where
  name := "text"
  unit := config.unit
  preferred := config.preferred
  fresh := ()
  write _ id _ snapshot installed := ⟨[line id snapshot installed.convention], (), []⟩
  encode lines :=
    if config.refuses then ⟨.error (.encoding "text" "refused"), []⟩ else ⟨.ok [payload lines], []⟩
  retain _ _ := ()

end Telemetry.Plain
