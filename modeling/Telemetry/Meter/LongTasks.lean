import Telemetry.Meter.Measurement
import Telemetry.Time.Clock

/-!
# Long tasks

A long task timer knows the tasks that are running and when each was started. Tasks are numbered in
the order of their starts. Publishing changes nothing here.
-/

namespace Telemetry

/-- The number of the next task, and the running tasks with the times of their starts. -/
structure LongTasks where
  next : UInt64
  active : List (UInt64 × UInt64)

namespace LongTasks

/-- No task has been started. -/
def start : LongTasks := ⟨0, []⟩

/-- When a running task was started. -/
def startedAt? (t : LongTasks) (task : UInt64) : Option UInt64 := t.active.lookup task

/-- Starts a task at a moment. -/
def begin (t : LongTasks) (now : UInt64) : UInt64 × LongTasks :=
  (t.next,
   { next := t.next + 1
     active := if (t.startedAt? t.next).isSome then t.active else t.active ++ [(t.next, now)] })

/-- How long a task has been running, if it is. -/
def duration? (t : LongTasks) (now task : UInt64) : Option Span :=
  (t.startedAt? task).map (Clock.elapsed now)

/-- Ends a task that is running, and tells how long it has been. -/
def stop (t : LongTasks) (now task : UInt64) : Option Span × LongTasks :=
  match t.startedAt? task with
  | none => (none, t)
  | some since =>
    (some (Clock.elapsed now since),
     { t with active := t.active.filter fun a => a.1 != task })

/-- The number of running tasks. -/
def activeTasks (t : LongTasks) : Nat := t.active.length

/-- How long all running tasks have been running together. -/
def totalDuration (t : LongTasks) (now : UInt64) : Span :=
  t.active.foldl (fun sum a => sum.add (Clock.elapsed now a.2)) Span.zero

/-- The measurements of a number of tasks and their duration. -/
def measurements (tasks : Nat) (duration : Span) (unit : TimeUnit) : List Measurement :=
  [⟨.activeTasks, (UInt64.ofNat tasks).toFloat⟩, ⟨.duration, unit.convert duration⟩]

/-- The current measurements. -/
def measure (t : LongTasks) (now : UInt64) (unit : TimeUnit) : List Measurement :=
  measurements t.activeTasks (t.totalDuration now) unit

end LongTasks

end Telemetry
