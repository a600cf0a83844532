import Telemetry.Time.Span

/-!
# When publishers publish

A publisher first publishes just behind the next boundary of its step on the wall clock, and from
then on whenever its ticker says that another step is over. Alarms stand for the next step of each
publisher. They ring at whole milliseconds; of those that ring at the same one, the alarm that was
set first comes first.

## Main definitions

* `delayToNextStep`: the time from the start to the first publish.
* `Ticker`: the time from one publish to the next.
* `Alarm`, `Schedule`: the next steps of publishers.
* `Schedule.ring?`, `Schedule.ringUntil`: the alarm that rings next, and all up to a moment.
-/

namespace Telemetry

/-- How long behind a boundary a publisher publishes, in nanoseconds. By then every meter has
entered the new step. -/
def boundaryOffset : Nat := 1000000

/-- The nanoseconds from a wall time to the first boundary of a step behind it. -/
def toBoundary (step wall : Nat) : Nat := step - wall % step

/-- The nanoseconds from a wall time to just behind the next boundary of a step, as far as a word of
nanoseconds reaches. -/
def delayToNextStep (step wall : Span) : Nat :=
  min (toBoundary step.nanos wall.nanos) (UInt64.size - 1) + boundaryOffset

/-- What tells publishers that a step is over: the nanoseconds, for a step, from a tick that comes
on time to the next one. -/
structure Ticker where
  period : Span → Nat
  period_pos : ∀ {step : Span}, 0 < step.nanos → 0 < period step

/-- A ticker that waits for thirty years of 365 days at most. -/
def Ticker.impatient : Ticker where
  period step := min step.nanos (10950 * 86400 * nanosPerSecond)
  period_pos h := Nat.lt_min.2 ⟨h, by decide⟩

/-- The number of nanoseconds in a millisecond. -/
def nanosPerMilli : Nat := 1000000

/-- The next step of a publisher: whose it is, when it is due, how long after it the following one
is, and when in the order of all alarms it was set. -/
structure Alarm where
  owner : Nat
  due : Nat
  period : Nat
  order : Nat
deriving DecidableEq, Repr

namespace Alarm

/-- The millisecond at which an alarm rings: the first that is not before it is due. -/
def rings (a : Alarm) : Nat := (a.due + (nanosPerMilli - 1)) / nanosPerMilli

/-- Whether an alarm rings before another. -/
def before (a b : Alarm) : Bool :=
  a.rings < b.rings || (a.rings == b.rings && a.order < b.order)

end Alarm

/-- All alarms, and how many have been set so far. -/
structure Schedule where
  alarms : List Alarm
  set : Nat

namespace Schedule

/-- No alarm has been set. -/
def empty : Schedule := ⟨[], 0⟩

instance : Inhabited Schedule := ⟨empty⟩

/-- Sets an alarm. -/
def add (s : Schedule) (owner due period : Nat) : Schedule :=
  ⟨s.alarms ++ [⟨owner, due, period, s.set⟩], s.set + 1⟩

/-- Drops the alarm of a publisher. -/
def drop (s : Schedule) (owner : Nat) : Schedule :=
  { s with alarms := s.alarms.filter fun a => a.owner != owner }

/-- The alarm that rings first. -/
def first? (s : Schedule) : Option Alarm :=
  s.alarms.foldl (fun best a =>
    match best with
    | none => some a
    | some b => if a.before b then some a else some b) none

/-- The publisher whose alarm rings first, up to a given millisecond, and the schedule with that
alarm set to its next step. -/
def ring? (s : Schedule) (milli : Nat) : Option (Nat × Schedule) :=
  match s.first? with
  | none => none
  | some a =>
    if a.rings ≤ milli then some (a.owner, (s.drop a.owner).add a.owner (a.due + a.period) a.period)
    else none

/-- Rings at most `fuel` alarms up to a given millisecond. -/
def ringFor (milli : Nat) : Nat → Schedule → List Nat × Schedule
  | 0, s => ([], s)
  | fuel + 1, s =>
    match s.ring? milli with
    | none => ([], s)
    | some (owner, s') =>
      let (owners, last) := ringFor milli fuel s'
      (owner :: owners, last)

/-- How often an alarm can ring up to a given millisecond at most. -/
def ringsWithin (milli : Nat) (a : Alarm) : Nat :=
  (milli * nanosPerMilli - a.due) / max 1 a.period + 1

/-- The publishers whose alarms ring up to a given millisecond, in their order, and the schedule
after that. -/
def ringUntil (s : Schedule) (milli : Nat) : List Nat × Schedule :=
  ringFor milli (s.alarms.foldl (fun n a => n + ringsWithin milli a) 0) s

end Schedule

end Telemetry
