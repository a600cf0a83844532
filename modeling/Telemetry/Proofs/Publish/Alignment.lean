import Mathlib.Algebra.Order.BigOperators.Group.List
import Mathlib.Algebra.Order.Ring.Nat
import Mathlib.Data.List.Induction
import Mathlib.Order.Bounds.Basic
import Telemetry.Publish.Schedule

/-!
# Steps at the boundaries of the wall clock

The delay of a publisher ends one millisecond behind the next boundary of its step, which is the
first multiple of the step that lies ahead. From there on its alarm is set again and again to one
period later than it was due, whatever else is in the schedule and whenever it is looked at. So if
the period is the step, the alarm is always due one millisecond behind a boundary.

## Main definitions

- `Ticker.IsExact` — a ticker that ticks one step behind each tick that comes on time
- `Schedule.again` — a schedule in which an alarm has been set to its next step
- `Schedule.rung` — the alarms that ring up to a given millisecond
- `Schedule.Punctual` — how often the alarm of a publisher has been set again

## Main statements

- `isLeast_toBoundary` — the next boundary of a step
- `delayToNextStep_le`, `delayToNextStep_of_lt` — the delay of a publisher
- `Schedule.ringUntil_eq` — what ringing comes to
- `Schedule.punctual_rungFor` — when the alarms of a publisher are due
- `Schedule.lt_rings_ringUntil` — no alarm is left out
-/

namespace Telemetry

/-! ## Boundaries -/

section Boundaries

theorem toBoundary_pos {step : Nat} (h : 0 < step) (wall : Nat) : 0 < toBoundary step wall :=
  Nat.sub_pos_of_lt (Nat.mod_lt wall h)

theorem toBoundary_le (step wall : Nat) : toBoundary step wall ≤ step := Nat.sub_le _ _

theorem add_toBoundary {step : Nat} (h : 0 < step) (wall : Nat) :
    wall + toBoundary step wall = step * (wall / step + 1) := by
  have hwall := Nat.div_add_mod wall step
  have hrest := Nat.mod_lt wall h
  rw [toBoundary, Nat.mul_add, Nat.mul_one]
  omega

/-- The next boundary is the first multiple of the step that is not reached yet. -/
theorem isLeast_toBoundary {step : Nat} (h : 0 < step) (wall : Nat) :
    IsLeast {boundary | step ∣ boundary ∧ wall < boundary} (wall + toBoundary step wall) := by
  constructor
  · exact ⟨Dvd.intro _ (add_toBoundary h wall).symm,
      Nat.lt_add_of_pos_right (toBoundary_pos h wall)⟩
  · rintro boundary ⟨⟨k, rfl⟩, hahead⟩
    have hk : wall / step < k := (Nat.div_lt_iff_lt_mul h).2 (Nat.mul_comm step k ▸ hahead)
    rw [add_toBoundary h]
    exact Nat.mul_le_mul_left step hk

theorem delayToNextStep_of_lt {step wall : Span}
    (h : toBoundary step.nanos wall.nanos < UInt64.size) :
    delayToNextStep step wall = toBoundary step.nanos wall.nanos + boundaryOffset := by
  rw [delayToNextStep, min_eq_left (Nat.le_sub_one_of_lt h)]

/-- The delay is a span: the millisecond never makes it too long. -/
theorem delayToNextStep_le (step wall : Span) : delayToNextStep step wall ≤ longestNanos := by
  have hroom : UInt64.size - 1 + boundaryOffset ≤ longestNanos := by decide
  rw [delayToNextStep]
  exact (Nat.add_le_add_right (min_le_right _ _) _).trans hroom

/-- The delay ends one millisecond behind the next boundary, or before it if that is more than a word
of nanoseconds away. -/
theorem delayToNextStep_aligned {step : Span} (h : 0 < step.nanos) (wall : Span) :
    let gap := toBoundary step.nanos wall.nanos
    IsLeast {boundary | step.nanos ∣ boundary ∧ wall.nanos < boundary} (wall.nanos + gap) ∧
      0 < gap ∧ gap ≤ step.nanos ∧
      delayToNextStep step wall = min gap (2 ^ 64 - 1) + 1000000 ∧
      delayToNextStep step wall ≤ longestNanos :=
  ⟨isLeast_toBoundary h wall.nanos, toBoundary_pos h wall.nanos,
    toBoundary_le step.nanos wall.nanos, rfl, delayToNextStep_le step wall⟩

theorem boundaryOffset_lt_delayToNextStep {step : Span} (h : 0 < step.nanos) (wall : Span) :
    boundaryOffset < delayToNextStep step wall := by
  have hpos := toBoundary_pos h wall.nanos
  have hsize : 0 < UInt64.size - 1 := by decide
  rw [delayToNextStep]
  exact Nat.lt_add_of_pos_left (lt_min hpos hsize)

end Boundaries

/-! ## Tickers -/

namespace Ticker

/-- Behind a tick that comes on time, the next one comes a step later. -/
def IsExact (ticker : Ticker) : Prop := ∀ step, ticker.period step = step.nanos

/-- A ticker that knows nothing but steps. -/
def exact : Ticker := ⟨Span.nanos, id⟩

theorem isExact_exact : exact.IsExact := fun _ => rfl

end Ticker

/-! ## Alarms -/

namespace Alarm

theorem rings_le_iff {a : Alarm} {milli : Nat} :
    a.rings ≤ milli ↔ a.due ≤ milli * nanosPerMilli := by
  unfold rings nanosPerMilli
  omega

theorem rings_le_of_before {a b : Alarm} (h : a.before b = true) : a.rings ≤ b.rings := by
  simp only [before, Bool.or_eq_true, Bool.and_eq_true, decide_eq_true_eq, beq_iff_eq] at h
  omega

theorem rings_le_of_not_before {a b : Alarm} (h : ¬ a.before b = true) : b.rings ≤ a.rings := by
  simp only [before, Bool.or_eq_true, Bool.and_eq_true, decide_eq_true_eq, beq_iff_eq] at h
  omega

/-- An alarm rings within a millisecond. -/
theorem due_le_rings (a : Alarm) :
    a.due ≤ a.rings * nanosPerMilli ∧ a.rings * nanosPerMilli < a.due + nanosPerMilli := by
  unfold rings nanosPerMilli
  omega

/-- An alarm that is due when the delay has ended rings later than it was set. -/
theorem lt_rings_of_due {a : Alarm} {step : Span} (h : 0 < step.nanos) (wall : Span) {milli : Nat}
    (ha : a.due = milli * nanosPerMilli + delayToNextStep step wall) : milli < a.rings := by
  have hdelay := boundaryOffset_lt_delayToNextStep h wall
  by_contra hrings
  have hdue := rings_le_iff.1 (Nat.le_of_not_lt hrings)
  rw [ha] at hdue
  omega

end Alarm

namespace Schedule

/-- A schedule in which an alarm has been set to its next step. -/
def again (s : Schedule) (a : Alarm) : Schedule :=
  (s.drop a.owner).add a.owner (a.due + a.period) a.period

/-- The alarm that rings next, up to a given millisecond. -/
def next? (s : Schedule) (milli : Nat) : Option Alarm := s.first?.filter (·.rings ≤ milli)

/-- The alarms that ring when at most `fuel` of them do, up to a given millisecond. -/
def rungFor (milli : Nat) : Nat → Schedule → List Alarm
  | 0, _ => []
  | fuel + 1, s =>
    match s.next? milli with
    | none => []
    | some a => a :: rungFor milli fuel (s.again a)

/-- The alarms that ring up to a given millisecond. -/
def rung (s : Schedule) (milli : Nat) : List Alarm :=
  rungFor milli (s.alarms.foldl (fun n a => n + ringsWithin milli a) 0) s

theorem ring?_eq (s : Schedule) (milli : Nat) :
    s.ring? milli = (s.next? milli).map fun a => (a.owner, s.again a) := by
  rw [ring?, next?]
  cases s.first? with
  | none => rfl
  | some a =>
    by_cases hrings : a.rings ≤ milli
    · rw [Option.filter_some, if_pos (decide_eq_true hrings), Option.map_some]
      simp only [if_pos hrings, again]
    · rw [Option.filter_some, if_neg (by simpa using hrings), Option.map_none]
      simp only [if_neg hrings]

theorem ringFor_eq (milli fuel : Nat) (s : Schedule) :
    ringFor milli fuel s =
      ((rungFor milli fuel s).map Alarm.owner, (rungFor milli fuel s).foldl again s) := by
  induction fuel generalizing s with
  | zero => rfl
  | succ fuel ih =>
    rw [ringFor, rungFor, ring?_eq]
    cases s.next? milli with
    | none => rfl
    | some a =>
      simp only [Option.map_some, ih]
      rfl

/-- Ringing tells whose alarms rang, and leaves each of them set to its next step. -/
theorem ringUntil_eq (s : Schedule) (milli : Nat) :
    s.ringUntil milli = ((s.rung milli).map Alarm.owner, (s.rung milli).foldl again s) :=
  ringFor_eq _ _ _

/-! ## Which alarm rings next -/

theorem first?_concat (alarms : List Alarm) (a : Alarm) (set : Nat) :
    (⟨alarms ++ [a], set⟩ : Schedule).first? =
      some (match (⟨alarms, set⟩ : Schedule).first? with
        | none => a
        | some b => if a.before b then a else b) := by
  rw [first?, List.foldl_append]
  change (match (⟨alarms, set⟩ : Schedule).first? with
    | none => some a
    | some b => if a.before b then some a else some b) = _
  cases (⟨alarms, set⟩ : Schedule).first? with
  | none => rfl
  | some b => exact (apply_ite some (a.before b = true) a b).symm

theorem first?_cases (s : Schedule) :
    (s.first? = none ∧ s.alarms = []) ∨
      ∃ a, s.first? = some a ∧ a ∈ s.alarms ∧ ∀ b ∈ s.alarms, a.rings ≤ b.rings := by
  obtain ⟨alarms, set⟩ := s
  induction alarms using List.reverseRecOn with
  | nil => exact .inl ⟨rfl, rfl⟩
  | append_singleton alarms a ih =>
    right
    rw [first?_concat]
    rcases ih with ⟨hnone, hempty⟩ | ⟨b, hb, hmem, hleast⟩
    · obtain rfl : alarms = [] := hempty
      exact ⟨a, by rw [hnone], List.mem_singleton_self a, by simp⟩
    · rw [hb]
      by_cases hbefore : a.before b = true
      · simp only [if_pos hbefore]
        refine ⟨a, rfl, List.mem_append_right _ (List.mem_singleton_self a), ?_⟩
        refine List.forall_mem_append.2 ⟨fun c hc => ?_, by simp⟩
        exact (Alarm.rings_le_of_before hbefore).trans (hleast c hc)
      · simp only [if_neg hbefore]
        refine ⟨b, rfl, List.mem_append_left _ hmem, ?_⟩
        exact List.forall_mem_append.2 ⟨hleast, by simpa using Alarm.rings_le_of_not_before hbefore⟩

theorem mem_of_next? {s : Schedule} {milli : Nat} {a : Alarm} (h : s.next? milli = some a) :
    a ∈ s.alarms ∧ a.rings ≤ milli := by
  obtain ⟨hfirst, hrings⟩ := Option.filter_eq_some_iff.1 h
  rcases s.first?_cases with ⟨hnone, -⟩ | ⟨b, hb, hmem, -⟩
  · rw [hnone] at hfirst
    cases hfirst
  · obtain rfl : b = a := Option.some.inj (hb.symm.trans hfirst)
    exact ⟨hmem, of_decide_eq_true hrings⟩

theorem next?_eq_none_iff {s : Schedule} {milli : Nat} :
    s.next? milli = none ↔ ∀ a ∈ s.alarms, milli < a.rings := by
  rcases s.first?_cases with ⟨hnone, hempty⟩ | ⟨a, ha, hmem, hleast⟩
  · rw [next?, hnone, hempty]
    simp
  · rw [next?, ha, Option.filter_some, ite_eq_right_iff]
    simp only [decide_eq_true_eq, reduceCtorEq, imp_false, Nat.not_le]
    exact ⟨fun h b hb => h.trans_le (hleast b hb), fun h => h a hmem⟩

theorem mem_again {s : Schedule} {a b : Alarm} (h : b ∈ (s.again a).alarms) :
    (b ∈ s.alarms ∧ b.owner ≠ a.owner) ∨ b = ⟨a.owner, a.due + a.period, a.period, s.set⟩ := by
  rcases List.mem_append.1 h with h | h
  · exact .inl ⟨List.mem_of_mem_filter h, by simpa using (List.mem_filter.1 h).2⟩
  · exact .inr (List.mem_singleton.1 h)

/-! ## The alarms of a publisher -/

/-- The alarm of a publisher, unless it has been dropped, has been set again `n` times since it was
first set. -/
def Punctual (s : Schedule) (p first period n : Nat) : Prop :=
  ∀ a ∈ s.alarms, a.owner = p → a.due = first + n * period ∧ a.period = period

/-- Alarms of which the first has been set again `n` times before, and each other one once more than
the one before it. -/
def OnTime (first period n : Nat) (alarms : List Alarm) : Prop :=
  ∀ k a, alarms[k]? = some a → a.due = first + (n + k) * period

theorem OnTime.append {first period n : Nat} {alarms more : List Alarm}
    (h : OnTime first period n alarms) (hmore : OnTime first period (n + alarms.length) more) :
    OnTime first period n (alarms ++ more) := by
  intro k a ha
  rcases lt_or_ge k alarms.length with hk | hk
  · rw [List.getElem?_append_left hk] at ha
    exact h k a ha
  · rw [List.getElem?_append_right hk] at ha
    have hdue := hmore _ a ha
    rwa [Nat.add_assoc, Nat.add_sub_cancel' hk] at hdue

theorem onTime_singleton {first period n : Nat} {a : Alarm} (h : a.due = first + n * period) :
    OnTime first period n [a] := by
  intro k b hb
  obtain ⟨rfl, rfl⟩ : k = 0 ∧ a = b := by simpa [List.getElem?_singleton] using hb
  exact h

/-- The alarms of a publisher. -/
def of (p : Nat) (alarms : List Alarm) : List Alarm := alarms.filter (·.owner == p)

@[simp] theorem of_append (p : Nat) (alarms more : List Alarm) :
    of p (alarms ++ more) = of p alarms ++ of p more :=
  List.filter_append ..

theorem of_cons_self {a : Alarm} {p : Nat} (h : a.owner = p) (rest : List Alarm) :
    of p (a :: rest) = a :: of p rest :=
  List.filter_cons_of_pos (beq_iff_eq.2 h)

theorem of_cons_other {a : Alarm} {p : Nat} (h : a.owner ≠ p) (rest : List Alarm) :
    of p (a :: rest) = of p rest :=
  List.filter_cons_of_neg (by simpa using h)

section Punctual

variable {s : Schedule} {p first period n : Nat} {a : Alarm}

theorem Punctual.again_other (h : s.Punctual p first period n) (ha : a.owner ≠ p) :
    (s.again a).Punctual p first period n := by
  intro b hb hp
  rcases mem_again hb with ⟨hmem, -⟩ | rfl
  · exact h b hmem hp
  · exact absurd hp ha

theorem Punctual.again_self (h : s.Punctual p first period n) (hmem : a ∈ s.alarms)
    (ha : a.owner = p) : (s.again a).Punctual p first period (n + 1) := by
  obtain ⟨hdue, hperiod⟩ := h a hmem ha
  intro b hb hp
  rcases mem_again hb with ⟨-, hother⟩ | rfl
  · exact absurd (hp.trans ha.symm) hother
  · refine ⟨?_, hperiod⟩
    change a.due + a.period = _
    rw [hdue, hperiod, Nat.add_mul, Nat.one_mul, Nat.add_assoc]

/-- The alarms of a publisher ring one period after another. -/
theorem punctual_rungFor (milli fuel : Nat) (h : s.Punctual p first period n) :
    OnTime first period n (of p (rungFor milli fuel s)) ∧
      ((rungFor milli fuel s).foldl again s).Punctual p first period
        (n + (of p (rungFor milli fuel s)).length) := by
  induction fuel generalizing s n with
  | zero => exact ⟨fun k a ha => (by cases ha), h⟩
  | succ fuel ih =>
    rw [rungFor]
    cases hnext : s.next? milli with
    | none => exact ⟨fun k a ha => (by cases ha), h⟩
    | some a =>
      obtain ⟨hmem, -⟩ := mem_of_next? hnext
      by_cases ha : a.owner = p
      · obtain ⟨hrest, hlast⟩ := ih (h.again_self hmem ha)
        have hself : OnTime first period n [a] := onTime_singleton (h a hmem ha).1
        simp only [of_cons_self ha]
        refine ⟨hself.append hrest, ?_⟩
        rw [List.length_cons, Nat.add_comm _ 1, ← Nat.add_assoc]
        exact hlast
      · simp only [of_cons_other ha]
        exact ih (h.again_other ha)

end Punctual

/-- Only alarms that were set ring, and they stay with their publishers. -/
theorem owner_rungFor (s : Schedule) (milli fuel : Nat) :
    (∀ a ∈ rungFor milli fuel s, ∃ b ∈ s.alarms, b.owner = a.owner) ∧
      ∀ a ∈ ((rungFor milli fuel s).foldl again s).alarms, ∃ b ∈ s.alarms, b.owner = a.owner := by
  induction fuel generalizing s with
  | zero => exact ⟨fun a ha => (by cases ha), fun a ha => ⟨a, ha, rfl⟩⟩
  | succ fuel ih =>
    rw [rungFor]
    cases hnext : s.next? milli with
    | none => exact ⟨fun a ha => (by cases ha), fun a ha => ⟨a, ha, rfl⟩⟩
    | some a =>
      obtain ⟨hmem, -⟩ := mem_of_next? hnext
      have hback : ∀ b ∈ (s.again a).alarms, ∃ c ∈ s.alarms, c.owner = b.owner := by
        intro b hb
        rcases mem_again hb with ⟨hmem, -⟩ | rfl
        · exact ⟨b, hmem, rfl⟩
        · exact ⟨a, hmem, rfl⟩
      obtain ⟨hrung, hlast⟩ := ih (s.again a)
      constructor
      · refine List.forall_mem_cons.2 ⟨⟨a, hmem, rfl⟩, fun b hb => ?_⟩
        obtain ⟨c, hc, howner⟩ := hrung b hb
        obtain ⟨d, hd, hcd⟩ := hback c hc
        exact ⟨d, hd, hcd.trans howner⟩
      · intro b hb
        obtain ⟨c, hc, howner⟩ := hlast b hb
        obtain ⟨d, hd, hcd⟩ := hback c hc
        exact ⟨d, hd, hcd.trans howner⟩

/-! ## All alarms -/

/-- How often an alarm will ring up to a given millisecond. -/
def ringsLeft (milli : Nat) (a : Alarm) : Nat :=
  if a.rings ≤ milli then (milli * nanosPerMilli - a.due) / a.period + 1 else 0

/-- How often all alarms will ring up to a given millisecond. -/
def allRingsLeft (s : Schedule) (milli : Nat) : Nat := (s.alarms.map (ringsLeft milli)).sum

section Left

variable {s : Schedule} {milli : Nat} {a : Alarm}

theorem ringsLeft_le_ringsWithin (hperiod : 0 < a.period) :
    ringsLeft milli a ≤ ringsWithin milli a := by
  rw [ringsLeft, ringsWithin, max_eq_right (Nat.succ_le_of_lt hperiod)]
  split
  · exact le_rfl
  · exact Nat.zero_le _

theorem ringsLeft_later (hperiod : 0 < a.period) (hrings : a.rings ≤ milli) (order : Nat) :
    ringsLeft milli ⟨a.owner, a.due + a.period, a.period, order⟩ + 1 = ringsLeft milli a := by
  have hdue := Alarm.rings_le_iff.1 hrings
  let later : Alarm := ⟨a.owner, a.due + a.period, a.period, order⟩
  have hlater : later.rings ≤ milli ↔ a.due + a.period ≤ milli * nanosPerMilli :=
    Alarm.rings_le_iff
  change ringsLeft milli later + 1 = _
  rw [ringsLeft, ringsLeft, if_pos hrings]
  by_cases hmore : a.due + a.period ≤ milli * nanosPerMilli
  · have hstep : (milli * nanosPerMilli - a.due) / a.period =
        (milli * nanosPerMilli - later.due) / a.period + 1 := by
      rw [Nat.div_eq_sub_div hperiod (by omega), Nat.sub_sub]
    rw [if_pos (hlater.2 hmore), hstep]
  · rw [if_neg (mt hlater.1 hmore), Nat.div_eq_of_lt (by omega)]

/-- An alarm that rings is set again to ring once less. -/
theorem allRingsLeft_again (hmem : a ∈ s.alarms) (hperiod : 0 < a.period)
    (hrings : a.rings ≤ milli) : (s.again a).allRingsLeft milli + 1 ≤ s.allRingsLeft milli := by
  have hsplit := ((List.filter_append_perm (fun b => b.owner != a.owner) s.alarms).map
    (ringsLeft milli)).sum_nat
  rw [List.map_append, List.sum_append] at hsplit
  have hself : ringsLeft milli a ≤
      ((s.alarms.filter fun b => !(b.owner != a.owner)).map (ringsLeft milli)).sum := by
    refine List.single_le_sum (fun _ _ => Nat.zero_le _) _ (List.mem_map_of_mem ?_)
    exact List.mem_filter.2 ⟨hmem, by simp⟩
  have hagain : (s.again a).allRingsLeft milli =
      ((s.alarms.filter fun b => b.owner != a.owner).map (ringsLeft milli)).sum +
        ringsLeft milli ⟨a.owner, a.due + a.period, a.period, s.set⟩ := by
    rw [allRingsLeft, again, add, List.map_append, List.sum_append, List.map_singleton,
      List.sum_singleton]
    rfl
  have hlater := ringsLeft_later hperiod hrings s.set
  rw [hagain, allRingsLeft]
  omega

theorem period_again (h : ∀ b ∈ s.alarms, 0 < b.period) (hmem : a ∈ s.alarms) :
    ∀ b ∈ (s.again a).alarms, 0 < b.period := by
  intro b hb
  rcases mem_again hb with ⟨hmem, -⟩ | rfl
  · exact h b hmem
  · exact h a hmem

/-- Alarms are rung as often as they have to be, and none is left that should have rung. -/
theorem next?_foldl_again (milli fuel : Nat) (h : ∀ b ∈ s.alarms, 0 < b.period)
    (hfuel : s.allRingsLeft milli ≤ fuel) :
    (∀ b ∈ ((rungFor milli fuel s).foldl again s).alarms, 0 < b.period) ∧
      ((rungFor milli fuel s).foldl again s).next? milli = none := by
  induction fuel generalizing s with
  | zero =>
    refine ⟨h, next?_eq_none_iff.2 fun a ha => ?_⟩
    by_contra hrings
    have hself := List.single_le_sum (fun _ _ => Nat.zero_le _) _
      (List.mem_map_of_mem (f := ringsLeft milli) ha)
    rw [ringsLeft, if_pos (Nat.le_of_not_lt hrings)] at hself
    exact absurd (hself.trans hfuel) (by simp)
  | succ fuel ih =>
    rw [rungFor]
    cases hnext : s.next? milli with
    | none => exact ⟨h, hnext⟩
    | some a =>
      obtain ⟨hmem, hrings⟩ := mem_of_next? hnext
      refine ih (period_again h hmem) ?_
      have hless := allRingsLeft_again hmem (h a hmem) hrings
      omega

end Left

theorem allRingsLeft_le (s : Schedule) (milli : Nat) (h : ∀ b ∈ s.alarms, 0 < b.period) :
    s.allRingsLeft milli ≤ s.alarms.foldl (fun n a => n + ringsWithin milli a) 0 := by
  have hfuel : s.alarms.foldl (fun n a => n + ringsWithin milli a) 0 =
      (s.alarms.map (ringsWithin milli)).sum := by
    rw [List.sum_eq_foldl, List.foldl_map]
  rw [hfuel]
  exact List.sum_le_sum fun b hb => ringsLeft_le_ringsWithin (h b hb)

/-- No alarm is left that should have rung, if each is set to a later moment when it rings. -/
theorem lt_rings_ringUntil {s : Schedule} {milli : Nat} (h : ∀ b ∈ s.alarms, 0 < b.period) :
    ∀ b ∈ (s.ringUntil milli).2.alarms, 0 < b.period ∧ milli < b.rings := by
  obtain ⟨hperiod, hnext⟩ := next?_foldl_again milli _ h (s.allRingsLeft_le milli h)
  rw [ringUntil_eq]
  exact fun b hb => ⟨hperiod b hb, next?_eq_none_iff.1 hnext b hb⟩

end Schedule

end Telemetry
