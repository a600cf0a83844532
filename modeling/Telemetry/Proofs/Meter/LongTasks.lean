import Mathlib.Data.List.Nodup
import Mathlib.Data.List.TakeWhile
import Telemetry.Meter.Reading
import Telemetry.Meter.Recording
import Telemetry.Proofs.Time.Nanoseconds

/-!
# The accounts of long tasks

A long task timer knows of a task only its number and the moment of its start. The numbers come from
a counter that runs ahead of all that are in use, so no two tasks share one. As long as the clock
does not start over, the moment of a start tells how much time has passed since then.

What has happened is kept beside the timer: which tasks were started, which of them were found and
stopped, and how much time passed. The timer has the tasks that were started and not stopped, each
with the time that passed before its start.

## Main definitions

- `LongTasks.Event` — a task was started or stopped, or time passed
- `LongTasks.running`, `LongTasks.passedSince` — the running tasks, and the time since a start
- `LongTasks.Orderly` — how tasks are numbered and stopped
- `LongTasks.Accounts` — what a timer has to do with what has happened
- `LongTasks.Run.after` — a timer, its clock and what has happened, after several deeds

## Main statements

- `LongTasks.accounts_begin`, `LongTasks.accounts_stop`, `LongTasks.accounts_passed` — each event
  keeps the accounts
- `LongTasks.totalDuration_perm` — the order of the tasks does not matter for their total
- `LongTasks.Run.sound_after` — every run keeps the accounts
- `LongTasks.Run.accounting` — what a timer tells after any run
-/

namespace Telemetry

namespace LongTasks

/-! ## What has happened -/

/-- A task was started or stopped, or time passed. -/
inductive Event
  | started (task : UInt64)
  | stopped (task : UInt64)
  | passed (nanos : Nat)

namespace Event

@[simp] def started? : Event → Option UInt64
  | started task => some task
  | _ => none

@[simp] def stopped? : Event → Option UInt64
  | stopped task => some task
  | _ => none

@[simp] def nanos : Event → Nat
  | passed nanos => nanos
  | _ => 0

end Event

section History

variable (history : List Event)

/-- The tasks that were started, in order. -/
def starts : List UInt64 := history.filterMap Event.started?

/-- The tasks that were stopped, in order. -/
def stops : List UInt64 := history.filterMap Event.stopped?

/-- The tasks that were started and not stopped. -/
def running : List UInt64 := (starts history).filter fun task => decide (task ∉ stops history)

/-- The time that passed, in nanoseconds. -/
def passed : Nat := (history.map Event.nanos).sum

/-- The time that passed since a task was started, in nanoseconds. -/
def passedSince (task : UInt64) : Nat :=
  passed (history.dropWhile fun event => decide (event.started? ≠ some task))

end History

section Concat

variable (history : List Event) (event : Event)

@[simp] theorem starts_concat :
    starts (history ++ [event]) = starts history ++ event.started?.toList := by
  rw [starts, List.filterMap_append]
  cases event <;> rfl

@[simp] theorem stops_concat :
    stops (history ++ [event]) = stops history ++ event.stopped?.toList := by
  rw [stops, List.filterMap_append]
  cases event <;> rfl

@[simp] theorem passed_concat : passed (history ++ [event]) = passed history + event.nanos := by
  rw [passed, List.map_append, List.sum_append, List.map_singleton, List.sum_singleton, passed]

/-- Since a start that has happened, also the time passed that passes next. -/
theorem passedSince_concat {history : List Event} {task : UInt64} (h : task ∈ starts history) :
    passedSince (history ++ [event]) task = passedSince history task + event.nanos := by
  obtain ⟨start, hstart, htask⟩ := List.mem_filterMap.1 h
  have hkept : (history.dropWhile fun event => decide (event.started? ≠ some task)) ≠ [] := by
    intro hnil
    have hother := List.dropWhile_eq_nil_iff.1 hnil start hstart
    exact of_decide_eq_true hother htask
  rw [passedSince, List.dropWhile_append, if_neg (by simpa using hkept), passed_concat, passedSince]

/-- Since a start that happens now, no time has passed. -/
theorem passedSince_started {history : List Event} {task : UInt64} (h : task ∉ starts history) :
    passedSince (history ++ [.started task]) task = 0 := by
  have hothers : ∀ event ∈ history, decide (event.started? ≠ some task) = true := by
    intro event hevent
    exact decide_eq_true fun htask => h (List.mem_filterMap.2 ⟨event, hevent, htask⟩)
  rw [passedSince, List.dropWhile_append_of_pos hothers, List.dropWhile_cons_of_neg (by
    simp [Event.started?])]
  rfl

end Concat

theorem mem_running_iff {history : List Event} {task : UInt64} :
    task ∈ running history ↔ task ∈ starts history ∧ task ∉ stops history := by
  rw [running, List.mem_filter, decide_eq_true_eq]

/-! ## Orderly histories -/

/-- Tasks are numbered in the order of their starts, and stopped once and after they were started. -/
structure Orderly (history : List Event) : Prop where
  starts_eq : starts history = (List.range (starts history).length).map UInt64.ofNat
  stops_nodup : (stops history).Nodup
  stops_subset : stops history ⊆ starts history

namespace Orderly

variable {history : List Event}

theorem toNat_ofNat_of_mem_range {k n : Nat} (hk : k ∈ List.range n) (hn : n ≤ UInt64.size) :
    (UInt64.ofNat k).toNat = k :=
  UInt64.toNat_ofNat_of_lt' ((List.mem_range.1 hk).trans_le hn)

theorem starts_nodup (h : Orderly history) (hfits : (starts history).length ≤ UInt64.size) :
    (starts history).Nodup := by
  rw [h.starts_eq]
  refine List.Nodup.map_on (fun i hi j hj heq => ?_) List.nodup_range
  have htoNat := congrArg UInt64.toNat heq
  rwa [toNat_ofNat_of_mem_range hi hfits, toNat_ofNat_of_mem_range hj hfits] at htoNat

/-- The next number has not been given to any task. -/
theorem next_not_mem (h : Orderly history) (hfits : (starts history).length < UInt64.size) :
    UInt64.ofNat (starts history).length ∉ starts history := by
  intro hmem
  have hnumbers : UInt64.ofNat (starts history).length ∈
      (List.range (starts history).length).map UInt64.ofNat := by
    rwa [← h.starts_eq]
  obtain ⟨k, hk, heq⟩ := List.mem_map.1 hnumbers
  have htoNat := congrArg UInt64.toNat heq
  rw [toNat_ofNat_of_mem_range hk hfits.le, UInt64.toNat_ofNat_of_lt' hfits] at htoNat
  exact (List.mem_range.1 hk).ne htoNat

theorem started (h : Orderly history) :
    Orderly (history ++ [.started (UInt64.ofNat (starts history).length)]) where
  starts_eq := by
    simp only [starts_concat, Event.started?, Option.toList_some, List.length_append,
      List.length_singleton, List.range_succ, List.map_append, List.map_singleton]
    rw [← h.starts_eq]
  stops_nodup := by simpa using h.stops_nodup
  stops_subset := by simpa using List.subset_append_of_subset_left _ h.stops_subset

theorem stopped (h : Orderly history) {task : UInt64} (hrunning : task ∈ running history) :
    Orderly (history ++ [.stopped task]) where
  starts_eq := by simpa using h.starts_eq
  stops_nodup := by
    have hnodup := h.stops_nodup.concat (mem_running_iff.1 hrunning).2
    rw [List.concat_eq_append] at hnodup
    simpa using hnodup
  stops_subset := by simpa using ⟨h.stops_subset, (mem_running_iff.1 hrunning).1⟩

theorem passed (h : Orderly history) (nanos : Nat) : Orderly (history ++ [.passed nanos]) where
  starts_eq := by simpa using h.starts_eq
  stops_nodup := by simpa using h.stops_nodup
  stops_subset := by simpa using h.stops_subset

/-- The tasks that were stopped are among those that were started, so each of them is one less. -/
theorem length_running (h : Orderly history) (hfits : (starts history).length ≤ UInt64.size) :
    (running history).length = (starts history).length - (stops history).length := by
  have hstopped : ((starts history).filter fun task => decide (task ∈ stops history)).Perm
      (stops history) := by
    refine (List.perm_ext_iff_of_nodup ((h.starts_nodup hfits).filter _) h.stops_nodup).2 ?_
    intro task
    rw [List.mem_filter, decide_eq_true_eq]
    exact and_iff_right_of_imp fun hmem => h.stops_subset hmem
  have hsplit := (starts history).length_eq_length_filter_add fun task =>
    decide (task ∈ stops history)
  rw [running, hsplit, hstopped.length_eq]
  simp

end Orderly

/-! ## The total -/

theorem nanos_totalDuration (t : LongTasks) (now : UInt64) :
    (t.totalDuration now).nanos =
      min (t.active.map fun a => (Clock.elapsed now a.2).nanos).sum longestNanos := by
  rw [totalDuration, Span.nanos_foldl_add]
  exact congrArg (min · longestNanos) (Nat.zero_add _)

/-- The order in which the tasks are visited does not matter for their total. -/
theorem totalDuration_perm {t other : LongTasks} (h : t.active.Perm other.active) (now : UInt64) :
    t.totalDuration now = other.totalDuration now := by
  refine Span.eq_of_nanos_eq ?_
  rw [nanos_totalDuration, nanos_totalDuration, (h.map _).sum_nat]

/-! ## Accounts -/

/-- A timer has the running tasks of what has happened, each with the time of its start. -/
structure Accounts (t : LongTasks) (now : UInt64) (history : List Event) : Prop where
  orderly : Orderly history
  now_eq : now.toNat = passed history
  next_eq : t.next = UInt64.ofNat (starts history).length
  active_eq : t.active.map Prod.fst = running history
  since : ∀ a ∈ t.active, a.2.toNat + passedSince history a.1 = passed history

theorem accounts_start : Accounts start 0 [] where
  orderly := ⟨rfl, List.nodup_nil, List.Subset.refl _⟩
  now_eq := rfl
  next_eq := rfl
  active_eq := rfl
  since := fun _ h => absurd h List.not_mem_nil

section Accounts

variable {t : LongTasks} {now : UInt64} {history : List Event}

theorem Accounts.nanos_elapsed (h : Accounts t now history) {a : UInt64 × UInt64}
    (ha : a ∈ t.active) : (Clock.elapsed now a.2).nanos = passedSince history a.1 := by
  have hsince := h.since a ha
  have hlongest : UInt64.size ≤ longestNanos := by decide
  have hnow := now.toNat_lt_size
  rw [h.now_eq] at hnow
  rw [Clock.elapsed, Span.clamp, h.now_eq]
  dsimp only
  omega

/-- Of a running task the time since its start is known, and of no other one. -/
theorem Accounts.elapsed_startedAt? (h : Accounts t now history) (task : UInt64) :
    (t.startedAt? task).map (fun since => (Clock.elapsed now since).nanos) =
      if task ∈ running history then some (passedSince history task) else none := by
  have hkeys : task ∈ running history ↔ (t.startedAt? task).isSome = true := by
    rw [← h.active_eq, startedAt?, List.lookup_isSome_iff, List.mem_map]
    exact exists_congr fun a => and_congr_right fun _ => by rw [beq_iff_eq, eq_comm]
  -- which entry of a task is found does not matter, as all have the time of its start
  cases hlookup : t.startedAt? task with
  | none =>
    rw [hlookup] at hkeys
    rw [if_neg (mt hkeys.1 (by simp))]
    rfl
  | some since =>
    rw [hlookup] at hkeys
    obtain ⟨before, behind, hactive, -⟩ := List.lookup_eq_some_iff.1 hlookup
    have hmem : (task, since) ∈ t.active := by
      rw [hactive]
      exact List.mem_append_right _ List.mem_cons_self
    rw [if_pos (hkeys.2 rfl), Option.map_some, h.nanos_elapsed hmem]

/-- The time since the start of a running task is known after any other event as well. -/
theorem Accounts.since_concat (h : Accounts t now history) (event : Event)
    {a : UInt64 × UInt64} (ha : a ∈ t.active) :
    a.2.toNat + passedSince (history ++ [event]) a.1 = passed (history ++ [event]) := by
  have hrunning : a.1 ∈ running history := by
    rw [← h.active_eq]
    exact List.mem_map_of_mem ha
  rw [passedSince_concat event (mem_running_iff.1 hrunning).1, passed_concat, ← Nat.add_assoc,
    h.since a ha]

/-- Starting a task keeps the accounts: its number was not in use. -/
theorem accounts_begin (h : Accounts t now history)
    (hfits : (starts history).length < UInt64.size) :
    Accounts (t.begin now).2 now (history ++ [.started (t.begin now).1]) := by
  have hnew : t.next ∉ starts history := h.next_eq ▸ h.orderly.next_not_mem hfits
  have hnotStopped : t.next ∉ stops history := fun hmem => hnew (h.orderly.stops_subset hmem)
  have hfree : (t.startedAt? t.next).isSome = false := by
    have hkeys := h.elapsed_startedAt? t.next
    rw [if_neg fun hmem => hnew (mem_running_iff.1 hmem).1, Option.map_eq_none_iff] at hkeys
    rw [hkeys]
    rfl
  have hbegin : t.begin now = (t.next, ⟨t.next + 1, t.active ++ [(t.next, now)]⟩) := by
    rw [begin, hfree]
    rfl
  rw [hbegin]
  refine ⟨h.next_eq ▸ h.orderly.started, by simpa using h.now_eq, by simp [h.next_eq], ?_, ?_⟩
  · simp [running, hnotStopped, h.active_eq]
  · intro a ha
    rcases List.mem_append.1 ha with ha | ha
    · exact h.since_concat _ ha
    · obtain rfl := List.mem_singleton.1 ha
      rw [passedSince_started hnew, passed_concat]
      exact h.now_eq

theorem Accounts.stop_of_running (h : Accounts t now history) {task : UInt64}
    (hrunning : task ∈ running history) :
    ∃ span, span.nanos = passedSince history task ∧
      t.stop now task = (some span, { t with active := t.active.filter fun a => a.1 != task }) := by
  have hkeys := h.elapsed_startedAt? task
  rw [if_pos hrunning] at hkeys
  obtain ⟨since, hsince, hnanos⟩ := Option.map_eq_some_iff.1 hkeys
  exact ⟨Clock.elapsed now since, hnanos, by rw [stop, hsince]⟩

theorem Accounts.stop_of_not_running (h : Accounts t now history) {task : UInt64}
    (hrunning : task ∉ running history) : t.stop now task = (none, t) := by
  have hkeys := h.elapsed_startedAt? task
  rw [if_neg hrunning, Option.map_eq_none_iff] at hkeys
  rw [stop, hkeys]

/-- Stopping a running task keeps the accounts. -/
theorem accounts_stop (h : Accounts t now history) {task : UInt64}
    (hrunning : task ∈ running history) :
    Accounts (t.stop now task).2 now (history ++ [.stopped task]) := by
  obtain ⟨span, -, hstop⟩ := h.stop_of_running hrunning
  have hactive : (t.active.filter fun a => a.1 != task).map Prod.fst =
      (running history).filter (· != task) := by
    rw [← h.active_eq, List.filter_map]
    rfl
  rw [hstop]
  refine ⟨h.orderly.stopped hrunning, by simpa using h.now_eq, by simpa using h.next_eq, ?_,
    fun a ha => h.since_concat _ (List.mem_of_mem_filter ha)⟩
  rw [hactive, running, List.filter_filter]
  simp only [running, starts_concat, stops_concat, Event.started?, Event.stopped?,
    Option.toList_none, Option.toList_some, List.append_nil]
  exact List.filter_congr fun other _ => Bool.eq_iff_iff.2 (by simp [and_comm])

/-- Time that passes keeps the accounts as long as the clock does not start over. -/
theorem accounts_passed (h : Accounts t now history) (span : Span)
    (hfits : passed history + span.nanos < UInt64.size) :
    Accounts t (now + span.nanosWord) (history ++ [.passed span.nanos]) := by
  have hword : span.nanosWord.toNat = span.nanos := Span.toNat_nanosWord_of_lt (by omega)
  refine ⟨h.orderly.passed _, ?_, by simpa using h.next_eq, by simpa [running] using h.active_eq,
    fun a ha => h.since_concat _ ha⟩
  rw [passed_concat, UInt64.toNat_add, h.now_eq, hword]
  exact Nat.mod_eq_of_lt hfits

theorem Accounts.activeTasks_eq (h : Accounts t now history)
    (hfits : (starts history).length ≤ UInt64.size) :
    t.activeTasks = (starts history).length - (stops history).length := by
  rw [← h.orderly.length_running hfits, ← h.active_eq, List.length_map]
  rfl

/-- The total is the sum of the times since the running tasks were started, or the longest span. -/
theorem Accounts.nanos_totalDuration (h : Accounts t now history) :
    (t.totalDuration now).nanos =
      min ((running history).map (passedSince history)).sum longestNanos := by
  have helapsed : (t.active.map fun a => (Clock.elapsed now a.2).nanos) =
      (running history).map (passedSince history) := by
    rw [← h.active_eq, List.map_map]
    exact List.map_congr_left fun a ha => h.nanos_elapsed ha
  rw [LongTasks.nanos_totalDuration, helapsed]

end Accounts

/-! ## Runs -/

variable {World : Type}

/-- What is done with a timer: a task is started; stopped, looked at, or stopped through the sample
that its start gave out, which is told by the number of starts before it; the timer is published;
or time passes. -/
inductive Deed (World : Type)
  | start
  | stop (task : UInt64)
  | stopSample (number : Nat)
  | look (task : UInt64)
  | publish (unit : TimeUnit) (world : World)
  | advance (span : Span)

namespace Deed

def isStart : Deed World → Bool
  | start => true
  | _ => false

def nanos : Deed World → Nat
  | advance span => span.nanos
  | _ => 0

end Deed

/-- A timer, its clock, and what has happened. -/
structure Run (World : Type) where
  instrument : Instrument World
  clock : Clock
  history : List Event

namespace Run

def start : Run World := ⟨.longTasks (some .start), Clock.start, []⟩

def now (run : Run World) : UInt64 := run.clock.monotonic

/-- Stops a task. It has been stopped if the timer tells how long it was running. -/
def stop (run : Run World) (task : UInt64) : Run World :=
  let (span?, instrument) := run.instrument.stopTask run.now task
  let history := if span?.isSome then run.history ++ [.stopped task] else run.history
  { run with instrument := instrument, history := history }

def next (run : Run World) : Deed World → Run World
  | .start =>
    let (task, instrument) := run.instrument.startTask run.now
    { run with instrument := instrument, history := run.history ++ [.started task] }
  | .stop task => run.stop task
  | .stopSample number =>
    match (starts run.history)[number]? with
    | none => run
    | some task => run.stop task
  -- looking at a task gives no instrument back
  | .look _ => run
  | .publish unit world => { run with instrument := (run.instrument.take unit world run.now).2 }
  | .advance span =>
    { run with clock := run.clock.advance span, history := run.history ++ [.passed span.nanos] }

/-- A new timer and its clock after several deeds. -/
def after (deeds : List (Deed World)) : Run World := deeds.foldl next start

/-- A run keeps the accounts of its deeds. -/
structure Sound (run : Run World) (deeds : List (Deed World)) : Prop where
  accounts : ∃ t, run.instrument = .longTasks (some t) ∧ Accounts t run.now run.history
  starts_eq : (starts run.history).length = deeds.countP Deed.isStart
  passed_eq : passed run.history = (deeds.map Deed.nanos).sum

section Sound

variable {run : Run World} {deeds : List (Deed World)}

/-- A deed that is neither a start nor an advance keeps the accounts if it leaves all as it is. -/
theorem Sound.unchanged (h : run.Sound deeds) {deed : Deed World} (hstart : deed.isStart = false)
    (hnanos : deed.nanos = 0) : run.Sound (deeds ++ [deed]) := by
  refine ⟨h.accounts, ?_, ?_⟩
  · rw [h.starts_eq, List.countP_append, List.countP_singleton, hstart]
    rfl
  · rw [h.passed_eq, List.map_append, List.sum_append, List.map_singleton, List.sum_singleton,
      hnanos, Nat.add_zero]

theorem sound_startTask (h : run.Sound deeds) (hfits : deeds.countP Deed.isStart < UInt64.size) :
    (run.next .start).Sound (deeds ++ [.start]) := by
  obtain ⟨t, hinstrument, haccounts⟩ := h.accounts
  have hbegin := accounts_begin haccounts (h.starts_eq ▸ hfits)
  have hnext : run.next .start = { run with
      instrument := .longTasks (some (t.begin run.now).2)
      history := run.history ++ [.started (t.begin run.now).1] } := by
    rw [next, hinstrument]
    rfl
  rw [hnext]
  refine ⟨⟨_, rfl, hbegin⟩, ?_, ?_⟩
  · rw [starts_concat, List.length_append, h.starts_eq, List.countP_append]
    rfl
  · rw [passed_concat, h.passed_eq, List.map_append, List.sum_append]
    rfl

theorem stop_eq {t : LongTasks} (h : run.instrument = .longTasks (some t)) (task : UInt64) :
    run.stop task = { run with
      instrument := .longTasks (some (t.stop run.now task).2)
      history := if (t.stop run.now task).1.isSome then run.history ++ [.stopped task]
        else run.history } := by
  rw [stop, h]
  rfl

theorem stop_of_not_running {t : LongTasks} (h : run.instrument = .longTasks (some t))
    (haccounts : Accounts t run.now run.history) {task : UInt64}
    (hrunning : task ∉ running run.history) : run.stop task = run := by
  rw [stop_eq h, haccounts.stop_of_not_running hrunning, ← h]
  rfl

theorem sound_stop (h : run.Sound deeds) (task : UInt64) : (run.stop task).Sound deeds := by
  obtain ⟨t, hinstrument, haccounts⟩ := h.accounts
  by_cases hrunning : task ∈ running run.history
  · obtain ⟨span, -, hanswer⟩ := haccounts.stop_of_running hrunning
    have hkept := accounts_stop haccounts hrunning
    rw [stop_eq hinstrument]
    rw [hanswer] at hkept ⊢
    refine ⟨⟨_, rfl, hkept⟩, ?_, ?_⟩
    · refine Eq.trans ?_ h.starts_eq
      exact congrArg List.length ((starts_concat run.history _).trans (List.append_nil _))
    · exact (passed_concat run.history _).trans h.passed_eq
  · rwa [stop_of_not_running hinstrument haccounts hrunning]

theorem sound_advance (h : run.Sound deeds) (span : Span)
    (hfits : (deeds.map Deed.nanos).sum + span.nanos < UInt64.size) :
    (run.next (.advance span)).Sound (deeds ++ [.advance span]) := by
  obtain ⟨t, hinstrument, haccounts⟩ := h.accounts
  refine ⟨⟨t, hinstrument, accounts_passed haccounts span (h.passed_eq ▸ hfits)⟩, ?_, ?_⟩
  · have hstarts : starts (run.next (.advance span)).history = starts run.history :=
      (starts_concat run.history _).trans (List.append_nil _)
    rw [hstarts, h.starts_eq, List.countP_append]
    rfl
  · have hpassed : passed (run.next (.advance span)).history = passed run.history + span.nanos :=
      passed_concat run.history _
    rw [hpassed, h.passed_eq, List.map_append, List.sum_append]
    rfl

/-- Each deed keeps the accounts, as long as tasks can be numbered and the clock does not start
over. -/
theorem sound_next (h : run.Sound deeds) (deed : Deed World)
    (hstarts : (deeds ++ [deed]).countP Deed.isStart < UInt64.size)
    (hpassed : ((deeds ++ [deed]).map Deed.nanos).sum < UInt64.size) :
    (run.next deed).Sound (deeds ++ [deed]) := by
  cases deed with
  | start =>
    rw [List.countP_append, List.countP_singleton] at hstarts
    exact sound_startTask h (Nat.lt_of_le_of_lt (Nat.le_add_right _ _) hstarts)
  | stop task => exact (sound_stop h task).unchanged rfl rfl
  | stopSample number =>
    cases hsample : (starts run.history)[number]? with
    | none =>
      have hnext : run.next (.stopSample number) = run := by rw [next, hsample]
      rw [hnext]
      exact h.unchanged rfl rfl
    | some task =>
      have hnext : run.next (.stopSample number) = run.stop task := by rw [next, hsample]
      rw [hnext]
      exact (sound_stop h task).unchanged rfl rfl
  | look task => exact h.unchanged rfl rfl
  | publish unit world =>
    obtain ⟨t, hinstrument, haccounts⟩ := h.accounts
    have hnext : run.next (.publish unit world) = run := by
      have htake : (run.instrument.take unit world run.now).2 = run.instrument := by
        rw [hinstrument]
        rfl
      rw [next, htake]
    rw [hnext]
    exact h.unchanged rfl rfl
  | advance span =>
    rw [List.map_append, List.sum_append, List.map_singleton, List.sum_singleton] at hpassed
    exact sound_advance h span hpassed

theorem sound_after (deeds : List (Deed World))
    (hstarts : deeds.countP Deed.isStart < UInt64.size)
    (hpassed : (deeds.map Deed.nanos).sum < UInt64.size) : (after deeds).Sound deeds := by
  induction deeds using List.reverseRecOn with
  | nil => exact ⟨⟨_, rfl, accounts_start⟩, rfl, rfl⟩
  | append_singleton deeds deed ih =>
    have hearlier : deeds.countP Deed.isStart < UInt64.size ∧
        (deeds.map Deed.nanos).sum < UInt64.size := by
      rw [List.countP_append] at hstarts
      rw [List.map_append, List.sum_append] at hpassed
      omega
    rw [after, List.foldl_append]
    exact sound_next (ih hearlier.1 hearlier.2) deed hstarts hpassed

end Sound

/-- What a timer tells of what has happened. -/
structure Tells (run : Run World) : Prop where
  starts_nodup : (starts run.history).Nodup
  stops_nodup : (stops run.history).Nodup
  stop : ∀ task, (run.instrument.stopTask run.now task).1.map Span.nanos =
    if task ∈ starts run.history ∧ task ∉ stops run.history then
      some (passedSince run.history task) else none
  duration : ∀ task, run.instrument.taskDuration? run.now task =
    (run.instrument.stopTask run.now task).1
  stop_unknown : ∀ task, task ∉ starts run.history ∨ task ∈ stops run.history →
    (run.instrument.stopTask run.now task).2 = run.instrument
  publish : ∀ unit world, (run.instrument.take unit world run.now).2 = run.instrument
  reading : ∀ unit world, ∃ duration, run.instrument.reading unit world run.now =
      .longTasks ((starts run.history).length - (stops run.history).length) duration ∧
    duration.nanos =
      min ((running run.history).map (passedSince run.history)).sum longestNanos
  order : ∀ t other : LongTasks, run.instrument = .longTasks (some t) →
    t.active.Perm other.active → other.totalDuration run.now = t.totalDuration run.now

theorem tells_of_sound {run : Run World} {deeds : List (Deed World)} (h : run.Sound deeds)
    (hfits : deeds.countP Deed.isStart < UInt64.size) : run.Tells := by
  obtain ⟨⟨t, hinstrument, haccounts⟩, hstarts, -⟩ := h
  have hlength : (starts run.history).length ≤ UInt64.size := hstarts ▸ hfits.le
  have hstopTask (task : UInt64) : run.instrument.stopTask run.now task =
      ((t.stop run.now task).1, .longTasks (some (t.stop run.now task).2)) := by
    rw [hinstrument]
    rfl
  refine ⟨haccounts.orderly.starts_nodup hlength, haccounts.orderly.stops_nodup, fun task => ?_, fun task => ?_,
    fun task hunknown => ?_, fun unit world => ?_, fun unit world => ?_,
    fun _ _ _ hperm => (totalDuration_perm hperm run.now).symm⟩
  · rw [hstopTask]
    simp only [← mem_running_iff]
    by_cases hrunning : task ∈ running run.history
    · obtain ⟨span, hnanos, hanswer⟩ := haccounts.stop_of_running hrunning
      rw [if_pos hrunning, hanswer, ← hnanos]
      rfl
    · rw [if_neg hrunning, haccounts.stop_of_not_running hrunning]
      rfl
  · rw [hstopTask, hinstrument]
    change (t.startedAt? task).map (Clock.elapsed run.now) = (t.stop run.now task).1
    unfold LongTasks.stop
    cases t.startedAt? task <;> rfl
  · have hrunning : task ∉ running run.history := fun hmem => by
      obtain ⟨hstarted, hnotStopped⟩ := mem_running_iff.1 hmem
      exact hunknown.elim (· hstarted) hnotStopped
    rw [hstopTask, haccounts.stop_of_not_running hrunning, hinstrument]
  · rw [hinstrument]
    rfl
  · refine ⟨t.totalDuration run.now, ?_, haccounts.nanos_totalDuration⟩
    rw [← haccounts.activeTasks_eq hlength, hinstrument]
    rfl

/-- Whatever is done with a timer and its clock, as long as tasks can be numbered and the clock does
not start over: what has happened has all starts and all the time that passed. No two starts have
the same number, and no task is stopped twice. Stopping a task tells how much time passed since its
start if it was started and not stopped before, and otherwise it tells nothing and changes nothing,
as publishing does. There are as many running tasks as starts that were not followed by a stop, and
their total is the sum of the times since their starts, cut off at the longest span, in whatever
order they are visited. -/
theorem accounting (deeds : List (Deed World))
    (hstarts : deeds.countP Deed.isStart < UInt64.size)
    (hpassed : (deeds.map Deed.nanos).sum < UInt64.size) :
    let run := after deeds
    (starts run.history).length = deeds.countP Deed.isStart ∧
      passed run.history = (deeds.map Deed.nanos).sum ∧ run.Tells := by
  intro run
  have hsound := sound_after deeds hstarts hpassed
  exact ⟨hsound.starts_eq, hsound.passed_eq, tells_of_sound hsound hstarts⟩

/-- Of three tasks one is stopped by its number and one through its sample, each of them only once.
-/
theorem accounting_of_three :
    let deeds : List (Deed Unit) := [.start, .advance (.of 0 5), .start, .stop 0, .stop 0, .stop 7,
      .publish .seconds (), .start, .advance (.of 0 3), .look 1, .stopSample 1, .stopSample 1]
    let run := after deeds
    deeds.countP Deed.isStart < UInt64.size ∧ (deeds.map Deed.nanos).sum < UInt64.size ∧
      (starts run.history, stops run.history) = ([0, 1, 2], [0, 1]) ∧
      (run.instrument.stopTask run.now 2).1.map Span.nanos = some 3 ∧
      run.instrument.taskDuration? run.now 1 = none ∧
      ∃ duration, run.instrument.reading .seconds () run.now = .longTasks 1 duration ∧
        duration.nanos = 3 := by
  intro deeds run
  have hstarts : deeds.countP Deed.isStart < UInt64.size := by decide
  have hpassed : (deeds.map Deed.nanos).sum < UInt64.size := by decide
  have hhistory : (starts run.history, stops run.history) = ([0, 1, 2], [0, 1]) := by
    decide +kernel
  obtain ⟨-, -, htells⟩ := accounting deeds hstarts hpassed
  obtain ⟨duration, hreading, hnanos⟩ := htells.reading .seconds ()
  refine ⟨hstarts, hpassed, hhistory, (htells.stop 2).trans (by decide +kernel), ?_, duration, ?_,
    hnanos.trans (by decide +kernel)⟩
  · have hstop : (run.instrument.stopTask run.now 1).1.map Span.nanos = none :=
      (htells.stop 1).trans (by decide +kernel)
    exact (htells.duration 1).trans (Option.map_eq_none_iff.1 hstop)
  · have hcount : (starts run.history).length - (stops run.history).length = 1 := by
      rw [(Prod.mk.inj hhistory).1, (Prod.mk.inj hhistory).2]
      rfl
    exact hcount ▸ hreading

end Run

end LongTasks

end Telemetry
