import Mathlib.Data.List.Fold
import Telemetry.Proofs.Meter.Tally
import Telemetry.Proofs.Time.Nanoseconds

/-!
# What a timer has recorded

A timer keeps how many spans it recorded, their sum and the longest, in words that cannot hold
every span. Each span is cut off at the largest word and so is the sum, and what is cut off is never
missed: the sum is that of the spans as they were cut off, or the largest word. So the three agree
with each other after any run, and the average that is computed of them lies below the longest span.

## Main definitions

- `Timer.after` — a timer after spans were recorded and snapshots taken
- `Timer.spansSince` — the spans recorded since the last snapshot
- `Timer.Tells` — what a timer tells of some spans

## Main statements

- `Timer.tallies_step`, `Timer.tallies_after` — a timer holds the tally of these spans
- `Timer.statistics_after` — how the statistics of a timer relate
-/

namespace Telemetry

/-! ## Words -/

theorem toNat_saturatingSum (words : List UInt64) :
    (saturatingSum words).toNat = min (words.map UInt64.toNat).sum (UInt64.size - 1) := by
  rw [saturatingSum, toNat_foldl_saturatingAdd, UInt64.toNat_zero, Nat.zero_add]

theorem toNat_largest (words : List UInt64) :
    (largest words).toNat = (words.map UInt64.toNat).foldr max 0 := by
  -- from any start, so that the rest of the words may be folded from the first one
  have hfold : ∀ (start : UInt64),
      (words.foldl (fun max x => if max < x then x else max) start).toNat =
        (words.map UInt64.toNat).foldl max start.toNat := by
    induction words with
    | nil => exact fun _ => rfl
    | cons word rest ih =>
      intro start
      rw [List.foldl_cons, ih, List.map_cons, List.foldl_cons]
      congr 1
      split
      · rename_i hlt
        exact (max_eq_right (UInt64.lt_iff_toNat_lt.1 hlt).le).symm
      · rename_i hle
        exact (max_eq_left (UInt64.le_iff_toNat_le.1 (UInt64.not_lt.1 hle))).symm
  rw [largest, hfold, ← List.foldl_eq_foldr]
  rfl

namespace Timer

/-! ## Runs -/

/-- What is done with a timer: a span or an amount of seconds is recorded, or a snapshot taken. -/
inductive Event
  | record (span : Span)
  | recordSeconds (seconds : Float)
  | take (unit : TimeUnit)

/-- The span that an event records, if any. -/
def Event.span? : Event → Option Span
  | record span => some span
  | recordSeconds seconds => Span.ofSeconds? seconds
  | take _ => none

def Event.isTake : Event → Bool
  | take _ => true
  | _ => false

def step (t : Timer) : Event → Timer
  | .record span => t.record span
  | .recordSeconds seconds => t.recordSeconds seconds
  | .take unit => (t.take unit).2

/-- A timer after several events. -/
def after (t : Timer) (events : List Event) : Timer := events.foldl step t

/-- The spans recorded since the last snapshot. -/
def spansSince (events : List Event) : List Span :=
  (events.rtakeWhile fun event => !event.isTake).filterMap Event.span?

theorem spansSince_concat (events : List Event) (event : Event) :
    spansSince (events ++ [event]) =
      if event.isTake then [] else spansSince events ++ event.span?.toList := by
  rw [spansSince, filterMap_rtakeWhile_concat, spansSince]
  cases event.isTake <;> rfl

theorem spansSince_append {events more : List Event} (h : ∀ event ∈ more, event.isTake = false) :
    spansSince (events ++ more) = spansSince events ++ more.filterMap Event.span? := by
  induction more using List.reverseRecOn with
  | nil => simp
  | append_singleton more event ih =>
    have hlast : event.isTake = false := h event (by simp)
    rw [← List.append_assoc, spansSince_concat, hlast,
      ih fun e he => h e (List.mem_append_left _ he), List.filterMap_append, ← List.append_assoc]
    cases hspan : event.span? <;> simp [hspan]

/-- The statistics of a timer are the tally of some spans. -/
structure Tallies (t : Timer) (spans : List Span) : Prop where
  count : t.count = countOf spans
  total : t.total = saturatingSum (spans.map Span.nanosWord)
  max : t.max = largest (spans.map Span.nanosWord)

theorem tallies_record {t : Timer} {spans : List Span} (h : t.Tallies spans) (span : Span) :
    (t.record span).Tallies (spans ++ [span]) := by
  obtain ⟨hcount, htotal, hmax⟩ := h
  refine ⟨?_, ?_, ?_⟩
  · rw [countOf_concat, ← hcount]
    rfl
  · rw [List.map_append, List.map_singleton, saturatingSum_concat, ← htotal]
    rfl
  · rw [List.map_append, List.map_singleton, largest_concat, ← hmax]
    rfl

/-- Any event leaves the tally of the spans recorded since the last snapshot. -/
theorem tallies_step {t : Timer} {spans : List Span} (h : t.Tallies spans) (event : Event) :
    (t.step event).Tallies (if event.isTake then [] else spans ++ event.span?.toList) := by
  cases event with
  | record span => exact tallies_record h span
  | recordSeconds seconds =>
    change (t.recordSeconds seconds).Tallies (spans ++ (Span.ofSeconds? seconds).toList)
    unfold recordSeconds
    cases Span.ofSeconds? seconds with
    | none => rwa [Option.toList_none, List.append_nil]
    | some span => exact tallies_record h span
  | take unit =>
    change (t.take unit).2.Tallies []
    unfold take
    cases t.histogram <;> exact ⟨rfl, rfl, rfl⟩

theorem tallies_after (bounds : List Span) (events : List Event) :
    ((start bounds).after events).Tallies (spansSince events) := by
  induction events using List.reverseRecOn with
  | nil => exact ⟨rfl, rfl, rfl⟩
  | append_singleton events event ih =>
    rw [spansSince_concat, after, List.foldl_append]
    exact tallies_step ih event

/-! ## Statistics -/

/-- What a timer tells of the spans it recorded. -/
structure Tells (t : Timer) (spans : List Span) : Prop where
  count : t.count.toNat = spans.length
  totalTime : t.totalTime.nanos = min (Span.sumCapped spans) (UInt64.size - 1)
  longest : t.longest.nanos = Span.maxCapped spans
  mean : t.mean.nanos = t.totalTime.nanos / t.count.toNat
  mean_none : spans = [] → t.mean = Span.zero
  longest_le_totalTime : t.longest.nanos ≤ t.totalTime.nanos
  totalTime_le_mul : t.totalTime.nanos ≤ t.count.toNat * t.longest.nanos
  mean_le_longest : t.mean.nanos ≤ t.longest.nanos

theorem nanos_mean (t : Timer) : t.mean.nanos = t.totalTime.nanos / t.count.toNat := by
  unfold mean totalTime
  split
  · rename_i hzero
    rw [hzero, UInt64.toNat_zero, Nat.div_zero]
    rfl
  · rw [Span.nanos_ofWord, Span.nanos_ofWord, UInt64.toNat_div]

theorem tells_of_tallies {t : Timer} {spans : List Span} (h : t.Tallies spans)
    (hfits : spans.length < UInt64.size) : t.Tells spans := by
  have hcapped : (spans.map Span.nanosWord).map UInt64.toNat = spans.map Span.capped := by
    rw [List.map_map]
    exact List.map_congr_left fun span _ => span.toNat_nanosWord
  have hcount : t.count.toNat = spans.length := by rw [h.count, toNat_countOf hfits]
  have htotal : t.totalTime.nanos = min (Span.sumCapped spans) (UInt64.size - 1) := by
    rw [totalTime, Span.nanos_ofWord, h.total, toNat_saturatingSum, hcapped, Span.sumCapped]
  have hlongest : t.longest.nanos = Span.maxCapped spans := by
    rw [longest, Span.nanos_ofWord, h.max, toNat_largest, hcapped, Span.maxCapped]
  have hle : t.longest.nanos ≤ t.totalTime.nanos := by
    rw [hlongest, htotal]
    exact le_min (Span.maxCapped_le_sumCapped spans)
      (Span.maxCapped_le_iff.2 fun _ _ => min_le_right _ _)
  have hmul : t.totalTime.nanos ≤ t.count.toNat * t.longest.nanos := by
    rw [hlongest, htotal, hcount]
    exact (min_le_left _ _).trans (Span.sumCapped_le_mul spans)
  refine ⟨hcount, htotal, hlongest, t.nanos_mean, fun hnone => ?_, hle, hmul, ?_⟩
  · rw [mean, if_pos (by rw [h.count, hnone]; rfl)]
  · rw [nanos_mean]
    exact Nat.div_le_of_le_mul hmul

/-- No statistic but the average is less than in another timer. -/
def Grows (t next : Timer) : Prop :=
  t.count ≤ next.count ∧ t.totalTime.nanos ≤ next.totalTime.nanos ∧
    t.longest.nanos ≤ next.longest.nanos

theorem grows_of_tells {t next : Timer} {spans more : List Span} (h : t.Tells spans)
    (hnext : next.Tells (spans ++ more)) : t.Grows next := by
  refine ⟨UInt64.le_iff_toNat_le.2 ?_, ?_, ?_⟩
  · rw [h.count, hnext.count, List.length_append]
    exact Nat.le_add_right ..
  · rw [h.totalTime, hnext.totalTime, Span.sumCapped, Span.sumCapped, List.map_append,
      List.sum_append]
    exact min_le_min_right _ (Nat.le_add_right ..)
  · rw [h.longest, hnext.longest]
    exact Span.maxCapped_le_iff.2 fun span hspan =>
      Span.maxCapped_le_iff.1 le_rfl span (List.mem_append_left more hspan)

/-- Whatever was recorded before, and in whatever snapshots, a timer tells of the spans recorded
since the last one, as long as their number fits in a word. Each counts for as many nanoseconds as a
word can hold, and so does their sum. The longest span is at most the sum, the sum at most the
longest as often as there are spans, and the average, rounded down, at most the longest. Until the
next snapshot number, sum and longest span never decrease. -/
theorem statistics_after (bounds : List Span) (events : List Event)
    (h : (spansSince events).length < UInt64.size) :
    ((start bounds).after events).Tells (spansSince events) ∧
      ∀ more : List Event, (∀ event ∈ more, event.isTake = false) →
        (spansSince (events ++ more)).length < UInt64.size →
        ((start bounds).after events).Grows ((start bounds).after (events ++ more)) := by
  have htells := tells_of_tallies (tallies_after bounds events) h
  refine ⟨htells, fun more hmore hfits => ?_⟩
  have hnext := tells_of_tallies (tallies_after bounds (events ++ more)) hfits
  rw [spansSince_append hmore] at hnext
  exact grows_of_tells htells hnext

/-- Two spans that no word can hold: the sum stops at the largest word, and so does each of them. -/
theorem statistics_after_longest :
    let events : List Event := [.record Span.zero, .take .seconds, .record Span.longest,
      .recordSeconds (-1), .recordSeconds 2]
    let t := (start []).after events
    (spansSince events).length < UInt64.size ∧
      (t.count.toNat, t.totalTime.nanos, t.longest.nanos, t.mean.nanos) =
        (2, UInt64.size - 1, UInt64.size - 1, (UInt64.size - 1) / 2) ∧
      t.Grows ((start []).after (events ++ [.record Span.longest])) := by
  intro events t
  have hspans : spansSince events = [Span.longest, Span.of 2 0] := by decide +kernel
  have hfits : (spansSince events).length < UInt64.size := by rw [hspans]; decide
  obtain ⟨htells, hgrows⟩ := statistics_after [] events hfits
  have hcount : t.count.toNat = 2 := htells.count.trans (by rw [hspans]; rfl)
  have htotal : t.totalTime.nanos = UInt64.size - 1 :=
    htells.totalTime.trans (by rw [hspans]; decide +kernel)
  have hlongest : t.longest.nanos = UInt64.size - 1 :=
    htells.longest.trans (by rw [hspans]; decide +kernel)
  refine ⟨hfits, ?_, hgrows _ (by simp [Event.isTake]) (by decide +kernel)⟩
  rw [htells.mean, hcount, htotal, hlongest]

end Timer

end Telemetry
