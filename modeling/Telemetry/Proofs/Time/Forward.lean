import Mathlib.Data.List.Infix
import Telemetry.Proofs.Meter.LongTasks

/-!
# Time that runs forward

A clock that is moved by hand runs forward until a move takes it past the largest word of
nanoseconds; with that move it starts over. While it runs forward, no running task is told to have
been running for less time than before, and the total of all running tasks becomes less only when
one of them is stopped.

## Main definitions

- `LongTasks.moved` — the nanoseconds by which deeds move the clock
- `LongTasks.Run.ran?`, `LongTasks.Run.total` — what is told of one task, and of all of them
- `LongTasks.Run.Ends` — a deed stops a running task
- `LongTasks.Run.Change` — what a deed can do to a timer

## Main statements

- `Clock.monotonic_advance_lt_iff`, `Clock.wall_advance_lt_iff` — when a clock starts over
- `LongTasks.Run.clock_next`, `LongTasks.Run.change_next` — what every deed does
- `LongTasks.Run.ran?_next_le`, `LongTasks.Run.ends_of_total_lt` — what a deed keeps while the clock
  runs forward
- `LongTasks.Run.time_forward` — what is so after any deeds, and as long as the clock does not start
  over
-/

namespace Telemetry

/-! ## Clocks -/

/-- A sum of words is less than the first one exactly if it does not fit a word. -/
theorem add_lt_self_iff (a b : UInt64) : a + b < a ↔ UInt64.size ≤ a.toNat + b.toNat := by
  have ha := a.toNat_lt_size
  have hb := b.toNat_lt_size
  rw [UInt64.lt_iff_toNat_lt, UInt64.toNat_add]
  unfold UInt64.size at *
  omega

namespace Clock

theorem monotonic_advance_lt_iff (clock : Clock) (span : Span) :
    (clock.advance span).monotonic < clock.monotonic ↔
      UInt64.size ≤ clock.monotonic.toNat + span.capped := by
  rw [← Span.toNat_nanosWord]
  exact add_lt_self_iff _ _

theorem wall_advance_lt_iff (clock : Clock) (span : Span) :
    (clock.advance span).wall < clock.wall ↔ UInt64.size ≤ clock.wall.toNat + span.capped := by
  rw [← Span.toNat_nanosWord]
  exact add_lt_self_iff _ _

theorem advance_zero (clock : Clock) : clock.advance Span.zero = clock := by
  obtain ⟨monotonic, wall⟩ := clock
  change Clock.mk (monotonic + 0) (wall + 0) = _
  rw [UInt64.add_zero, UInt64.add_zero]

theorem elapsed_le_elapsed {now later : UInt64} (h : now ≤ later) (since : UInt64) :
    (elapsed now since).nanos ≤ (elapsed later since).nanos := by
  rw [UInt64.le_iff_toNat_le] at h
  change min (now.toNat - since.toNat) longestNanos ≤ min (later.toNat - since.toNat) longestNanos
  omega

end Clock

namespace LongTasks

/-! ## Timers -/

section Timers

variable {t : LongTasks} {now later task other since : UInt64}

/-- Starting a task leaves the others as they are, even if its number is in use. -/
theorem startedAt?_begin (h : t.startedAt? task = some since) :
    (t.begin now).2.startedAt? task = some since := by
  change (if (t.startedAt? t.next).isSome then t.active else t.active ++ [(t.next, now)]).lookup task =
    some since
  split
  · exact h
  · rw [List.lookup_append, show t.active.lookup task = some since from h]
    rfl

/-- Without the entries of one task, that task is not found and any other one is as before. -/
theorem lookup_filter_bne (active : List (UInt64 × UInt64)) (other task : UInt64) :
    (active.filter fun a => a.1 != other).lookup task =
      if task = other then none else active.lookup task := by
  induction active with
  | nil => exact (ite_self none).symm
  | cons a rest ih =>
    by_cases hdropped : a.1 = other
    · rw [List.filter_cons_of_neg (by simp [hdropped]), ih]
      split
      · rfl
      · rename_i hne
        rw [List.lookup_cons, beq_eq_false_iff_ne.2 (hdropped ▸ hne)]
    · rw [List.filter_cons_of_pos (by simp [hdropped]), List.lookup_cons, List.lookup_cons, ih]
      by_cases hfound : task = a.1
      · have hne : task ≠ other := hfound ▸ hdropped
        rw [beq_iff_eq.2 hfound, if_neg hne, if_neg hne]
      · rw [beq_eq_false_iff_ne.2 hfound]

/-- Stopping a task leaves the others as they are. -/
theorem startedAt?_stop (t : LongTasks) (now other task : UInt64) :
    (t.stop now other).2.startedAt? task = if task = other then none else t.startedAt? task := by
  unfold stop
  split
  · rename_i hnone
    split
    · rename_i heq
      rw [heq]
      exact hnone
    · rfl
  · exact lookup_filter_bne t.active other task

theorem nanos_totalDuration_le (h : now ≤ later) :
    (t.totalDuration now).nanos ≤ (t.totalDuration later).nanos := by
  rw [nanos_totalDuration, nanos_totalDuration]
  exact min_le_min_right _ (List.sum_le_sum fun a _ => Clock.elapsed_le_elapsed h a.2)

/-- A task that starts now adds nothing to the total. -/
theorem totalDuration_begin (t : LongTasks) (now : UInt64) :
    (t.begin now).2.totalDuration now = t.totalDuration now := by
  have helapsed : (Clock.elapsed now now).nanos = 0 := by
    change min (now.toNat - now.toNat) longestNanos = 0
    omega
  refine Span.eq_of_nanos_eq ?_
  rw [nanos_totalDuration, nanos_totalDuration]
  change min (((if (t.startedAt? t.next).isSome then t.active
    else t.active ++ [(t.next, now)]).map _).sum) _ = _
  split
  · rfl
  · rw [List.map_append, List.sum_append, List.map_singleton, List.sum_singleton, helapsed, Nat.add_zero]

end Timers

/-! ## Runs -/

variable {World : Type}

/-- The span by which a deed moves the clock. -/
def Deed.span : Deed World → Span
  | .advance span => span
  | _ => Span.zero

/-- The nanoseconds by which some deeds move the clock, each of them cut off to a word. -/
def moved (deeds : List (Deed World)) : Nat := Span.sumCapped (deeds.map Deed.span)

theorem moved_append (deeds more : List (Deed World)) :
    moved (deeds ++ more) = moved deeds + moved more := by
  rw [moved, Span.sumCapped, List.map_append, List.map_append, List.sum_append]
  rfl

theorem moved_singleton (deed : Deed World) : moved [deed] = deed.span.capped := Nat.add_zero _

namespace Run

/-- How long a task has been running, in nanoseconds, if it is. -/
def ran? (run : Run World) (task : UInt64) : Option Nat :=
  (run.instrument.taskDuration? run.now task).map Span.nanos

/-- How long all running tasks have been running together, in nanoseconds. -/
def total (run : Run World) : Nat :=
  match run.instrument with
  | .longTasks (some t) => (t.totalDuration run.now).nanos
  | _ => 0

/-- The task that a deed is to stop. -/
def target? (run : Run World) : Deed World → Option UInt64
  | .stop task => some task
  | .stopSample number => (starts run.history)[number]?
  | _ => none

/-- A deed stops a running task. -/
def Ends (run : Run World) (deed : Deed World) : Prop :=
  ∃ task, run.target? deed = some task ∧ (run.ran? task).isSome ∧ (run.next deed).ran? task = none

/-- What a deed can do to a timer: start a task, stop its target, or nothing. -/
inductive Change (run : Run World) (deed : Deed World) (t : LongTasks) : LongTasks → Prop
  | nothing : Change run deed t t
  | start : Change run deed t (t.begin run.now).2
  | stop (task : UInt64) (htarget : run.target? deed = some task) :
    Change run deed t (t.stop run.now task).2

section Steps

variable {run : Run World} {t later : LongTasks} {deed : Deed World} {task : UInt64}

theorem ran?_eq (h : run.instrument = .longTasks (some t)) (task : UInt64) :
    run.ran? task = (t.startedAt? task).map fun since => (Clock.elapsed run.now since).nanos := by
  rw [ran?, h]
  exact Option.map_map _ _ _

theorem total_eq (h : run.instrument = .longTasks (some t)) :
    run.total = (t.totalDuration run.now).nanos := by
  rw [total, h]

theorem next_stopSample_of_none {number : Nat} (h : (starts run.history)[number]? = none) :
    run.next (.stopSample number) = run := by
  rw [next, h]

theorem next_stopSample_of_some {number : Nat} (h : (starts run.history)[number]? = some task) :
    run.next (.stopSample number) = run.stop task := by
  rw [next, h]

theorem clock_next (run : Run World) (deed : Deed World) :
    (run.next deed).clock = run.clock.advance deed.span := by
  have hkept : run.clock = run.clock.advance Span.zero := (run.clock.advance_zero).symm
  cases deed with
  | stopSample number =>
    cases hsample : (starts run.history)[number]? with
    | none =>
      rw [next_stopSample_of_none hsample]
      exact hkept
    | some task =>
      rw [next_stopSample_of_some hsample]
      exact hkept
  | advance span => rfl
  | _ => exact hkept

theorem change_next (h : run.instrument = .longTasks (some t)) (deed : Deed World) :
    ∃ later, (run.next deed).instrument = .longTasks (some later) ∧ run.Change deed t later := by
  cases deed with
  | start =>
    refine ⟨(t.begin run.now).2, ?_, .start⟩
    rw [next, h]
    rfl
  | stop task => exact ⟨_, congrArg instrument (stop_eq h task), .stop task rfl⟩
  | stopSample number =>
    cases hsample : (starts run.history)[number]? with
    | none =>
      rw [next_stopSample_of_none hsample]
      exact ⟨t, h, .nothing⟩
    | some task =>
      rw [next_stopSample_of_some hsample]
      exact ⟨_, congrArg instrument (stop_eq h task), .stop task hsample⟩
  | look task => exact ⟨t, h, .nothing⟩
  | publish unit world =>
    refine ⟨t, ?_, .nothing⟩
    rw [next, h]
    rfl
  | advance span => exact ⟨t, h, .nothing⟩

theorem Change.startedAt?_eq (h : run.Change deed t later) {since other : UInt64}
    (hbefore : t.startedAt? task = some since) (hafter : later.startedAt? task = some other) :
    other = since := by
  cases h with
  | nothing => exact Option.some.inj (hafter.symm.trans hbefore)
  | start => exact Option.some.inj (hafter.symm.trans (startedAt?_begin hbefore))
  | stop target =>
    rw [startedAt?_stop] at hafter
    split at hafter
    · cases hafter
    · exact Option.some.inj (hafter.symm.trans hbefore)

/-- If the clock does not start over, what is told of a task does not become less. -/
theorem ran?_next_le (h : run.instrument = .longTasks (some t))
    (hforward : run.now ≤ (run.next deed).now) {ran longer : Nat}
    (hbefore : run.ran? task = some ran) (hafter : (run.next deed).ran? task = some longer) :
    ran ≤ longer := by
  obtain ⟨later, hlater, hchange⟩ := change_next h deed
  rw [ran?_eq h] at hbefore
  rw [ran?_eq hlater] at hafter
  obtain ⟨since, hsince, rfl⟩ := Option.map_eq_some_iff.1 hbefore
  obtain ⟨other, hother, rfl⟩ := Option.map_eq_some_iff.1 hafter
  rw [hchange.startedAt?_eq hsince hother]
  exact Clock.elapsed_le_elapsed hforward since

/-- If the clock does not start over, only a task that is stopped makes the total less. -/
theorem ends_of_total_lt (h : run.instrument = .longTasks (some t))
    (hforward : run.now ≤ (run.next deed).now) (hless : (run.next deed).total < run.total) :
    run.Ends deed := by
  obtain ⟨later, hlater, hchange⟩ := change_next h deed
  rw [total_eq h, total_eq hlater] at hless
  have hgrown := nanos_totalDuration_le (t := later) hforward
  cases hchange with
  | nothing => exact absurd hgrown hless.not_ge
  | start =>
    rw [totalDuration_begin] at hgrown
    exact absurd hgrown hless.not_ge
  | stop task htarget =>
    have hstopped : (t.startedAt? task).isSome := by
      by_contra hnone
      rw [Option.not_isSome_iff_eq_none] at hnone
      have hkept : (t.stop run.now task).2 = t := by rw [LongTasks.stop, hnone]
      rw [hkept] at hgrown hless
      exact absurd hgrown hless.not_ge
    refine ⟨task, htarget, ?_, ?_⟩
    · rwa [ran?_eq h, Option.isSome_map]
    · rw [ran?_eq hlater, startedAt?_stop, if_pos rfl]
      rfl

end Steps

section Runs

theorem after_concat (deeds : List (Deed World)) (deed : Deed World) :
    after (deeds ++ [deed]) = (after deeds).next deed := by
  rw [after, List.foldl_append]
  rfl

theorem instrument_after (deeds : List (Deed World)) :
    ∃ t, (after deeds).instrument = .longTasks (some t) := by
  induction deeds using List.reverseRecOn with
  | nil => exact ⟨_, rfl⟩
  | append_singleton deeds deed ih =>
    obtain ⟨t, ht⟩ := ih
    obtain ⟨later, hlater, -⟩ := change_next ht deed
    exact ⟨later, after_concat deeds deed ▸ hlater⟩

theorem wall_after (deeds : List (Deed World)) :
    (after deeds).clock.wall = (after deeds).clock.monotonic := by
  induction deeds using List.reverseRecOn with
  | nil => rfl
  | append_singleton deeds deed ih =>
    rw [after_concat, clock_next]
    exact congrArg (· + deed.span.nanosWord) ih

theorem toNat_now_after (deeds : List (Deed World)) :
    (after deeds).now.toNat = moved deeds % UInt64.size := by
  induction deeds using List.reverseRecOn with
  | nil => rfl
  | append_singleton deeds deed ih =>
    have hadvance : (after (deeds ++ [deed])).now = (after deeds).now + deed.span.nanosWord := by
      rw [after_concat, now, clock_next]
      rfl
    rw [hadvance, UInt64.toNat_add, ih, Span.toNat_nanosWord, moved_append, moved_singleton]
    exact Nat.mod_add_mod _ _ _

variable {deeds more : List (Deed World)}

/-- The clock shows all that it was moved by as long as that fits a word. -/
theorem toNat_now_append (hfits : (after deeds).now.toNat + moved more < UInt64.size) :
    (after (deeds ++ more)).now.toNat = (after deeds).now.toNat + moved more := by
  rw [toNat_now_after] at hfits
  rw [toNat_now_after, toNat_now_after, moved_append, ← Nat.mod_add_mod]
  exact Nat.mod_eq_of_lt hfits

theorem now_le_append (hfits : (after deeds).now.toNat + moved more < UInt64.size) :
    (after deeds).now ≤ (after (deeds ++ more)).now := by
  rw [UInt64.le_iff_toNat_le, toNat_now_append hfits]
  exact Nat.le_add_right _ _

theorem now_le_next {deed : Deed World}
    (hfits : (after deeds).now.toNat + moved (more ++ [deed]) < UInt64.size) :
    (after deeds).now.toNat + moved more < UInt64.size ∧
      (after (deeds ++ more)).now ≤ ((after (deeds ++ more)).next deed).now := by
  rw [moved_append] at hfits
  have hearlier : (after deeds).now.toNat + moved more < UInt64.size := by omega
  refine ⟨hearlier, ?_⟩
  rw [← after_concat]
  refine now_le_append ?_
  rw [toNat_now_append hearlier]
  omega

theorem ran?_le_append {task : UInt64}
    (hfits : (after deeds).now.toNat + moved more < UInt64.size)
    (hactive : ∀ part, part <+: more → ((after (deeds ++ part)).ran? task).isSome) :
    ∃ ran longer, (after deeds).ran? task = some ran ∧
      (after (deeds ++ more)).ran? task = some longer ∧ ran ≤ longer := by
  induction more using List.reverseRecOn with
  | nil =>
    have hbefore := hactive [] List.nil_prefix
    obtain ⟨ran, hran⟩ := Option.isSome_iff_exists.1 hbefore
    rw [List.append_nil] at hran ⊢
    exact ⟨ran, ran, hran, hran, le_rfl⟩
  | append_singleton more deed ih =>
    obtain ⟨hearlier, hforward⟩ := now_le_next hfits
    obtain ⟨ran, longer, hran, hlonger, hle⟩ :=
      ih hearlier fun part hpart => hactive part (hpart.trans (List.prefix_append _ _))
    obtain ⟨longest, hlongest⟩ := Option.isSome_iff_exists.1 (hactive _ List.prefix_rfl)
    rw [← List.append_assoc, after_concat] at hlongest ⊢
    obtain ⟨t, ht⟩ := instrument_after (deeds ++ more)
    exact ⟨ran, longest, hran, hlongest, hle.trans (ran?_next_le ht hforward hlonger hlongest)⟩

theorem ends_of_total_lt_append (hfits : (after deeds).now.toNat + moved more < UInt64.size)
    (hless : (after (deeds ++ more)).total < (after deeds).total) :
    ∃ part deed rest, more = part ++ deed :: rest ∧ (after (deeds ++ part)).Ends deed := by
  induction more using List.reverseRecOn with
  | nil =>
    rw [List.append_nil] at hless
    exact absurd hless (lt_irrefl _)
  | append_singleton more deed ih =>
    obtain ⟨hearlier, hforward⟩ := now_le_next hfits
    obtain ⟨t, ht⟩ := instrument_after (deeds ++ more)
    rw [← List.append_assoc, after_concat] at hless
    -- either the last deed makes the total less, or it was less before
    rcases lt_or_ge ((after (deeds ++ more)).next deed).total (after (deeds ++ more)).total with
      hlast | hlast
    · exact ⟨more, deed, [], rfl, ends_of_total_lt ht hforward hlast⟩
    · obtain ⟨part, other, rest, hmore, hends⟩ := ih hearlier (hlast.trans_lt hless)
      exact ⟨part, other, rest ++ [deed], by rw [hmore, List.append_assoc, List.cons_append], hends⟩

end Runs

/-- The two readings of a clock are equal: the nanoseconds it was moved by, of which only what is
beyond the last full word is left. A move makes them less exactly if it takes them past the largest
word. As long as no move does, they do not become less, what is told of a task that stays active
does not either, and the total of all tasks becomes less only with a deed that stops one of them. -/
theorem time_forward (deeds more : List (Deed World)) :
    let run := after deeds
    let later := after (deeds ++ more)
    run.clock.monotonic.toNat = moved deeds % UInt64.size ∧
      run.clock.wall = run.clock.monotonic ∧
      (∀ span, ((run.clock.advance span).monotonic < run.clock.monotonic ↔
          UInt64.size ≤ run.clock.monotonic.toNat + span.capped) ∧
        ((run.clock.advance span).wall < run.clock.wall ↔
          UInt64.size ≤ run.clock.wall.toNat + span.capped)) ∧
      (run.clock.monotonic.toNat + moved more < UInt64.size →
        run.clock.monotonic ≤ later.clock.monotonic ∧ run.clock.wall ≤ later.clock.wall ∧
        (∀ task, (∀ part, part <+: more → ((after (deeds ++ part)).ran? task).isSome) →
          ∃ ran longer, run.ran? task = some ran ∧ later.ran? task = some longer ∧ ran ≤ longer) ∧
        (later.total < run.total →
          ∃ part deed rest, more = part ++ deed :: rest ∧ (after (deeds ++ part)).Ends deed)) := by
  intro run later
  refine ⟨toNat_now_after deeds, wall_after deeds, fun span => ⟨run.clock.monotonic_advance_lt_iff span,
    run.clock.wall_advance_lt_iff span⟩, fun hfits => ⟨now_le_append hfits, ?_,
    fun task hactive => ran?_le_append hfits hactive, ends_of_total_lt_append hfits⟩⟩
  rw [wall_after, wall_after]
  exact now_le_append hfits

/-- Two tasks that are stopped at the end: until then both have run longer and longer. -/
theorem time_forward_two_tasks :
    let deeds : List (Deed Unit) := [.start, .advance (.of 0 5), .start]
    let more : List (Deed Unit) := [.advance (.of 0 3), .stop 0]
    (after deeds).clock.monotonic.toNat + moved more < UInt64.size ∧
      (after deeds).clock.monotonic ≤ (after (deeds ++ more)).clock.monotonic ∧
      (∃ ran longer, (after deeds).ran? 1 = some ran ∧
        (after (deeds ++ more)).ran? 1 = some longer ∧ ran ≤ longer) ∧
      ∃ part deed rest, more = part ++ deed :: rest ∧ (after (deeds ++ part)).Ends deed := by
  intro deeds more
  obtain ⟨-, -, -, hforward⟩ := time_forward deeds more
  have hfits : (after deeds).clock.monotonic.toNat + moved more < UInt64.size := by decide +kernel
  obtain ⟨hmonotonic, -, hran, htotal⟩ := hforward hfits
  refine ⟨hfits, hmonotonic, hran 1 ?_, htotal (by decide +kernel)⟩
  intro part hpart
  rw [← List.mem_inits] at hpart
  revert part
  decide +kernel

/-- A task has been running for as long as a word can tell. The clock is moved by two nanoseconds,
and starts over: the task is told to have been running for one. -/
theorem time_starts_over :
    let run : Run Unit := after [.start, .advance (.of 18446744073 709551615)]
    let later := run.next (.advance (.of 0 2))
    later.clock.monotonic < run.clock.monotonic ∧ later.clock.wall < run.clock.wall ∧
      run.ran? 0 = some 18446744073709551615 ∧ later.ran? 0 = some 1 ∧ later.total < run.total := by
  decide +kernel

end Run

end LongTasks

end Telemetry
