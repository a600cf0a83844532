import Telemetry.Publish.Payload

/-!
# Packing lines into packets

Lines are packed in their order into packets of at most a given number of bytes, as many to a packet
as fit, with a newline between any two. A line that is longer than a packet travels alone.

## Main definitions

* `packetLength`: the bytes of the lines of a packet with the newlines between them.
* `pack`: the packets of a list of lines.
-/

namespace Telemetry.Statsd

/-- The bytes of lines that are joined by newlines. -/
def packetLength : List String → Nat
  | [] => 0
  | [line] => line.utf8ByteSize
  | line :: rest => line.utf8ByteSize + 1 + packetLength rest

/-- The body of a packet. -/
def packetBody (lines : List String) : String := "\n".intercalate lines

/-- Packs lines behind those that are in the open packet already. -/
def packInto (limit : Nat) (packet : List String) : List String → List (List String)
  | [] => if packet.isEmpty then [] else [packet]
  | line :: rest =>
    if packet.isEmpty then packInto limit [line] rest
    else if packetLength packet + (line.utf8ByteSize + 1) > limit then
      packet :: packInto limit [line] rest
    else packInto limit (packet ++ [line]) rest

/-- The packets of a list of lines. -/
def pack (limit : Nat) (lines : List String) : List (List String) := packInto limit [] lines

end Telemetry.Statsd
