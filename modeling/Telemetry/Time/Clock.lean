import Telemetry.Time.Span

/-!
# A clock that is moved by hand

A clock has two readings: monotonic time, from which elapsed time is measured, and wall time, to
which publishing is aligned. Both are words of nanoseconds. Moving the clock adds to both, and like
every addition of words it starts again at zero past the largest word.
-/

namespace Telemetry

/-- The two readings of a clock, in nanoseconds. -/
structure Clock where
  monotonic : UInt64
  wall : UInt64
deriving DecidableEq

namespace Clock

/-- A clock whose readings are both zero. -/
def start : Clock := ⟨0, 0⟩

instance : Inhabited Clock := ⟨start⟩

/-- A clock of which only the wall time has been set. -/
def atWall (wall : Span) : Clock := ⟨wall.nanosWord, wall.nanosWord⟩

/-- Moves both readings forward. -/
def advance (clock : Clock) (by' : Span) : Clock :=
  ⟨clock.monotonic + by'.nanosWord, clock.wall + by'.nanosWord⟩

/-- The wall time as a span. -/
def wallTime (clock : Clock) : Span := Span.ofWord clock.wall

/-- The time that passed on the monotonic reading since an earlier one; none if that lies ahead. -/
def elapsed (now since : UInt64) : Span := Span.clamp (now.toNat - since.toNat)

end Clock

end Telemetry
