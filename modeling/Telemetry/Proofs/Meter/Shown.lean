import Telemetry.Meter.Reading
import Telemetry.Proofs.Decimal.Arithmetic
import Telemetry.Proofs.Meter.Watched

/-!
# What watching meters show

A meter that watches a total shows how much it rose above the baseline, and publishes that as well,
but only publishing minds whether the total is finite. Of a total that is gone, and of one that is
finite, the same is shown as would be published. Any other total is published as not a number, and
shown as an increase: of nothing, or without end if the total is infinite.

## Main definitions

- `look` — what is shown for a reading
- `Instrument.watched` — the totals that an instrument reads

## Main statements

- `apply_look_eq_iff` — when a reading is shown as it would be published
- `look_of_not_isFinite` — what is shown of a total that is not finite
- `shown_iff_published` — both for all instruments, function counters and function timers
-/

namespace Telemetry

open Decimal

variable {World : Type}

/-! ## Readings -/

/-- What is shown for a reading. -/
def look (baseline : Float) : Option Float → Float
  | none => notANumber
  | some total => increase total baseline

/-- Of a total that is not finite nothing is shown, or an increase without end. -/
theorem increase_special {total : Float} (h : total.isFinite = false) (baseline : Float) :
    increase total baseline = 0 ∨ increase total baseline = 1 / 0 := by
  unfold increase
  split
  · rename_i hpos
    exact .inr (eq_infinity_of_pos (isFinite_sub_of_not_isFinite h baseline) hpos)
  · exact .inl rfl

/-- As much of a number as lies above zero; nothing of what is not a number. -/
def aboveZero (x : Float) : Float := if 0 < x then x else 0

theorem look_of_not_isFinite {baseline total : Float} (hbaseline : baseline.isFinite = true)
    (h : total.isFinite = false) : look baseline (some total) = aboveZero total := by
  rw [look, increase, sub_of_not_isFinite h hbaseline, aboveZero]

theorem watch_of_not_isFinite (baseline : Float) {total : Float} (h : total.isFinite = false) :
    (watch baseline (some total)).1 = notANumber := by
  simp [watch, advance, h]

/-- A reading is shown as it would be published exactly if it is finite or gone, and also when both
are converted, as long as not a number stays apart from what may be shown in its place. -/
theorem apply_look_eq_iff (convert : Float → Float) (hzero : convert 0 ≠ convert notANumber)
    (hinfinity : convert (1 / 0) ≠ convert notANumber) (baseline : Float)
    (reading : Option Float) :
    convert (look baseline reading) = convert (watch baseline reading).1 ↔
      ∀ r ∈ reading, r.isFinite = true := by
  cases reading with
  | none => simp [look, watch]
  | some total =>
    have hmem : (∀ r ∈ some total, r.isFinite = true) ↔ total.isFinite = true := by simp
    rw [hmem]
    by_cases h : total.isFinite = true
    · refine iff_of_true ?_ h
      rw [watch, advance, if_pos h, look]
    · rw [watch, advance, if_neg h, look]
      refine iff_of_false ?_ h
      rcases increase_special (Bool.eq_false_iff.2 h) baseline with hshown | hshown
      · rwa [hshown]
      · rwa [hshown]

/-! ## Function counters and function timers -/

namespace FunctionCounter

theorem count_eq (c : FunctionCounter World) (world : World) :
    c.count world = look c.baseline (c.read world) := by
  unfold count
  cases c.read world <;> rfl

theorem count_eq_take_iff (c : FunctionCounter World) (world : World) :
    c.count world = (c.take world).1 ↔ ∀ r ∈ c.read world, r.isFinite = true := by
  rw [count_eq, take_eq]
  exact apply_look_eq_iff id (by decide +kernel) (by decide +kernel) _ _

/-- A counter after a run of takes. -/
def after (c : FunctionCounter World) (worlds : List World) : FunctionCounter World :=
  worlds.foldl (fun c world => (c.take world).2) c

theorem after_start (read : World → Option Float) (worlds : List World) :
    (start read).after worlds = ⟨read, lastUsable (worlds.map read)⟩ := by
  induction worlds using List.reverseRecOn with
  | nil => rfl
  | append_singleton worlds world ih =>
    have hafter : (start read).after (worlds ++ [world]) =
        (((start read).after worlds).take world).2 := by
      rw [after, List.foldl_append]
      rfl
    rw [hafter, ih, take_eq, List.map_append, List.map_singleton, ← watch_snd]

end FunctionCounter

namespace FunctionTimer

theorem count_eq (t : FunctionTimer World) (world : World) :
    t.count world = look t.countBaseline ((t.read world).map Prod.fst) := by
  unfold count
  cases t.read world <;> rfl

theorem totalTime_eq (t : FunctionTimer World) (world : World) (unit : TimeUnit) :
    t.totalTime world unit =
      t.rescale (look t.totalBaseline ((t.read world).map Prod.snd)) unit := by
  unfold totalTime
  cases t.read world with
  | none => exact (t.rescale_notANumber unit).symm
  | some pair => rfl

/-- Whatever the units are, zero and infinity are not converted into what is not a number. -/
theorem rescale_ne_rescale_notANumber (t : FunctionTimer World) (unit : TimeUnit) :
    t.rescale 0 unit ≠ t.rescale notANumber unit ∧
      t.rescale (1 / 0) unit ≠ t.rescale notANumber unit := by
  have hconvert : ∀ u v : TimeUnit,
      v.scaleSeconds (u.toSeconds 0) ≠ v.scaleSeconds (u.toSeconds notANumber) ∧
        v.scaleSeconds (u.toSeconds (1 / 0)) ≠ v.scaleSeconds (u.toSeconds notANumber) := by
    intro u v
    cases u <;> cases v <;> decide +kernel
  exact hconvert t.unit unit

theorem count_eq_take_iff (t : FunctionTimer World) (world : World) (unit : TimeUnit) :
    t.count world = (t.take world unit).1.1 ↔ ∀ pair ∈ t.read world, pair.1.isFinite = true := by
  rw [count_eq, take_eq]
  refine (apply_look_eq_iff id (by decide +kernel) (by decide +kernel) _ _).trans ?_
  rw [Option.forall_mem_map]

theorem totalTime_eq_take_iff (t : FunctionTimer World) (world : World) (unit : TimeUnit) :
    t.totalTime world unit = (t.take world unit).1.2 ↔
      ∀ pair ∈ t.read world, pair.2.isFinite = true := by
  obtain ⟨hzero, hinfinity⟩ := t.rescale_ne_rescale_notANumber unit
  rw [totalTime_eq, take_eq]
  refine (apply_look_eq_iff (t.rescale · unit) hzero hinfinity _ _).trans ?_
  rw [Option.forall_mem_map]

end FunctionTimer

/-! ## Instruments -/

/-- The totals that an instrument reads; none if it does not watch any, or if they are gone. -/
def Instrument.watched (world : World) : Instrument World → List Float
  | functionCounter (some c) => (c.read world).toList
  | functionTimer (some t) => (t.read world).toList.flatMap fun pair => [pair.1, pair.2]
  | _ => []

theorem Instrument.measure_eq_take_iff (unit : TimeUnit) (world : World) (now : UInt64)
    (i : Instrument World) :
    i.measure unit world now = (i.take unit world now).1.measurements ↔
      ∀ r ∈ i.watched world, r.isFinite = true := by
  have hnone {list : List Measurement} : list = list ↔ ∀ r ∈ ([] : List Float), r.isFinite = true :=
    iff_of_true rfl fun _ hr => absurd hr List.not_mem_nil
  cases i with
  | counter state => cases state <;> exact hnone
  | gauge value => exact hnone
  | timer state =>
    cases state with
    | none => exact hnone
    | some t =>
      obtain ⟨count, total, max, histogram⟩ := t
      cases histogram <;> exact hnone
  | summary state =>
    cases state with
    | none => exact hnone
    | some s =>
      obtain ⟨scale, count, total, max, histogram⟩ := s
      cases histogram <;> exact hnone
  | longTasks state => exact hnone
  | functionCounter state =>
    cases state with
    | none => exact hnone
    | some c =>
      have hmeasure : (functionCounter (some c)).measure unit world now =
          [⟨.count, c.count world⟩] := rfl
      have htake : ((functionCounter (some c)).take unit world now).1.measurements =
          [⟨.count, (c.take world).1⟩] := rfl
      rw [hmeasure, htake]
      simp [FunctionCounter.count_eq_take_iff, watched]
  | functionTimer state =>
    cases state with
    | none => exact hnone
    | some t =>
      have hmeasure : (functionTimer (some t)).measure unit world now =
          [⟨.count, t.count world⟩, ⟨.totalTime, t.totalTime world unit⟩] := rfl
      have htake : ((functionTimer (some t)).take unit world now).1.measurements =
          [⟨.count, (t.take world unit).1.1⟩, ⟨.totalTime, (t.take world unit).1.2⟩] := rfl
      rw [hmeasure, htake]
      simp only [List.cons.injEq, Measurement.mk.injEq, true_and, and_true,
        t.count_eq_take_iff world unit, t.totalTime_eq_take_iff world unit, watched,
        ← forall₂_and]
      cases t.read world <;> simp
  | custom measurements => cases measurements <;> exact hnone

/-- What an instrument shows is what it would publish at that moment exactly if each total that it
watches is finite or gone. After any publishes, a total that is not finite is published as not a
number, and what is shown in its place is as much of it as lies above zero. -/
theorem shown_iff_published (unit : TimeUnit) (world : World) (now : UInt64) :
    (∀ i : Instrument World, i.measure unit world now = (i.take unit world now).1.measurements ↔
      ∀ r ∈ i.watched world, r.isFinite = true) ∧
    (∀ c : FunctionCounter World, c.count world = (c.take world).1 ↔
      ∀ r ∈ c.read world, r.isFinite = true) ∧
    (∀ t : FunctionTimer World,
      (t.count world = (t.take world unit).1.1 ↔ ∀ pair ∈ t.read world, pair.1.isFinite = true) ∧
      (t.totalTime world unit = (t.take world unit).1.2 ↔
        ∀ pair ∈ t.read world, pair.2.isFinite = true)) ∧
    (∀ (read : World → Option Float) (earlier : List World) (total : Float),
      read world = some total → total.isFinite = false →
      let c := (FunctionCounter.start read).after earlier
      c.count world = aboveZero total ∧ (c.take world).1 = notANumber) ∧
    ∀ (read : World → Option (Float × Float)) (scale : TimeUnit)
      (earlier : List (FunctionTimer.Take World)) (count total : Float),
      read world = some (count, total) →
      let t := (FunctionTimer.start read scale).after earlier
      (count.isFinite = false →
        t.count world = aboveZero count ∧ (t.take world unit).1.1 = notANumber) ∧
      (total.isFinite = false →
        t.totalTime world unit = t.rescale (aboveZero total) unit ∧
          (t.take world unit).1.2 = notANumber) := by
  refine ⟨Instrument.measure_eq_take_iff unit world now, fun c => c.count_eq_take_iff world,
    fun t => ⟨t.count_eq_take_iff world unit, t.totalTime_eq_take_iff world unit⟩, ?_, ?_⟩
  · intro read earlier total hread htotal c
    have hc : c = ⟨read, lastUsable (earlier.map read)⟩ := FunctionCounter.after_start read earlier
    have hread' : c.read world = some total := by
      rw [hc]
      exact hread
    have hbaseline : c.baseline.isFinite = true := by
      rw [hc]
      exact isFinite_lastUsable _
    rw [FunctionCounter.count_eq, FunctionCounter.take_eq, hread']
    exact ⟨look_of_not_isFinite hbaseline htotal, watch_of_not_isFinite _ htotal⟩
  · intro read scale earlier count total hread t
    have ht : t = _ := FunctionTimer.after_start read scale earlier
    have hread' : t.read world = some (count, total) := by
      rw [ht]
      exact hread
    have hbaselines : t.countBaseline.isFinite = true ∧ t.totalBaseline.isFinite = true := by
      rw [ht]
      exact ⟨isFinite_lastUsable _, isFinite_lastUsable _⟩
    rw [FunctionTimer.count_eq, FunctionTimer.totalTime_eq, FunctionTimer.take_eq, hread']
    refine ⟨fun hcount => ?_, fun htotal => ?_⟩
    · exact ⟨look_of_not_isFinite hbaselines.1 hcount, watch_of_not_isFinite _ hcount⟩
    · have hpublished := congrArg (t.rescale · unit) (watch_of_not_isFinite t.totalBaseline htotal)
      exact ⟨congrArg (t.rescale · unit) (look_of_not_isFinite hbaselines.2 htotal),
        hpublished.trans (t.rescale_notANumber unit)⟩

/-- A finite total, and one that is gone, is shown as it is published; an infinite one is not. -/
theorem shown_iff_published_gap :
    let c := (FunctionCounter.start fun reading : Option Float => reading).after [some 2.0]
    (Instrument.functionCounter (some c)).measure .seconds (some 5.0) 0 =
        ((Instrument.functionCounter (some c)).take .seconds (some 5.0) 0).1.measurements ∧
      c.count none = (c.take none).1 ∧
      c.count (some (1 / 0)) = 1 / 0 ∧ (c.take (some (1 / 0))).1 = notANumber := by
  intro c
  have hshown := (shown_iff_published .seconds (some 5.0) 0).1 (.functionCounter (some c))
  have hgone := (shown_iff_published .seconds (none : Option Float) 0).2.1 c
  obtain ⟨hcount, htake⟩ := (shown_iff_published .seconds (some (1 / 0)) 0).2.2.2.1
    (fun reading => reading) [some 2.0] (1 / 0) rfl (by decide +kernel)
  refine ⟨hshown.2 ?_, hgone.2 (fun _ h => nomatch h), hcount.trans (by decide +kernel), htake⟩
  intro r hr
  obtain rfl : r = 5.0 := List.mem_singleton.1 hr
  decide +kernel

/-- A function counter shows a total that is not a number as no increase, but publishes it as what
it is. -/
theorem shown_apart :
    let c := FunctionCounter.start fun reading : Option Float => reading
    let i := Instrument.functionCounter (some c)
    i.measure .seconds (some notANumber) 0 = [⟨.count, 0⟩] ∧
      (i.take .seconds (some notANumber) 0).1.measurements = [⟨.count, notANumber⟩] ∧
      i.measure .seconds (some notANumber) 0 ≠
        (i.take .seconds (some notANumber) 0).1.measurements := by
  intro c i
  have hmeasure : i.measure .seconds (some notANumber) 0 = [⟨.count, 0⟩] := by
    have hcount : c.count (some notANumber) = 0 := by decide +kernel
    exact congrArg (fun x => [(⟨.count, x⟩ : Measurement)]) hcount
  have htake : (i.take .seconds (some notANumber) 0).1.measurements = [⟨.count, notANumber⟩] := by
    have hcount : (c.take (some notANumber)).1 = notANumber := by decide +kernel
    exact congrArg (fun x => [(⟨.count, x⟩ : Measurement)]) hcount
  refine ⟨hmeasure, htake, fun h => ?_⟩
  have hzero : (0 : Float) = notANumber := by
    rw [hmeasure, htake] at h
    simpa using h
  revert hzero
  decide +kernel

end Telemetry
