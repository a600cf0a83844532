import Mathlib.Algebra.Order.Ring.Nat
import Mathlib.Data.List.DropRight
import Telemetry.Proofs.Registry.Run

/-!
# What instruments tally

Counters, timers and summaries accumulate the amounts they accept until a snapshot is taken. What
they hold and what they report is settled by these amounts alone: how many there are, their sum, the
largest, and how many fall into each bucket of the histogram.

## Main definitions

- `Amount` — an amount as an instrument accumulates it
- `Instrument.accepted?` — the amount of a recording, if the instrument accepts it
- `Recipe.report` — the snapshot for a list of amounts
- `Recipe.holding` — the instrument of a recipe that holds a list of amounts

## Main statements

- `Recipe.apply_holding` — a recording adds the amount that is accepted, if any
- `Recipe.take_holding` — a snapshot reports all amounts held and leaves none
- `Recipe.measure_holding` — measuring reads what a snapshot would report
-/

namespace Telemetry

variable {World : Type}

/-- An amount as it is accumulated: a number, or a time in nanoseconds. -/
inductive Amount
  | number (x : Float)
  | nanos (n : UInt64)

namespace Amount

/-- The number that falls into a bucket. -/
def toNumber : Amount → Float
  | number x => x
  | nanos n => n.toFloat

def toNanos : Amount → UInt64
  | number _ => 0
  | nanos n => n

end Amount

/-- The amount of a recording, if an instrument accepts it. -/
def Instrument.accepted? : Recording → Instrument World → Option Amount
  | .increment x, counter (some _) => if Counter.accepts x then some (.number x) else none
  | .span s, timer (some _) => some (.nanos s.nanosWord)
  | .seconds x, timer (some _) => (Span.ofSeconds? x).map fun s => .nanos s.nanosWord
  | .amount x, summary (some s) =>
    if Summary.accepts (x * s.scale) then some (.number (x * s.scale)) else none
  | _, _ => none

theorem Instrument.accepted?_of_isIdle {i : Instrument World} (h : i.isIdle = true)
    (recording : Recording) : i.accepted? recording = none := by
  cases i <;> cases recording <;> rename_i state _ <;> cases state <;> first | rfl | cases h

/-! ## Folds -/

/-- What a run of events came to since the last one that was not kept. -/
theorem filterMap_rtakeWhile_concat {α β : Type} (keep : α → Bool) (f : α → Option β)
    (events : List α) (event : α) :
    ((events ++ [event]).rtakeWhile keep).filterMap f =
      if keep event then (events.rtakeWhile keep).filterMap f ++ (f event).toList else [] := by
  by_cases h : keep event = true
  · rw [List.rtakeWhile_concat_pos _ _ _ h, List.filterMap_append, if_pos h]
    cases hf : f event <;> simp [hf]
  · rw [List.rtakeWhile_concat_neg _ _ _ h, if_neg h]
    rfl

/-- The sum of numbers, added in order. -/
def sumOf (values : List Float) : Float := values.foldl (· + ·) 0

/-- The sum of words, which stops at the largest. -/
def saturatingSum (words : List UInt64) : UInt64 := words.foldl saturatingAdd 0

/-- The largest of some values and zero. -/
def largest {α : Type} [OfNat α 0] [LT α] [DecidableLT α] (values : List α) : α :=
  values.foldl (fun max x => if max < x then x else max) 0

/-- How many there are, as a word. -/
def countOf {α : Type} (values : List α) : UInt64 := UInt64.ofNat values.length

/-- The buckets of some values: each value counts for the first bound that it does not exceed. -/
def bucketsOf : List Float → List Float → List Bucket
  | [], _ => []
  | bound :: rest, values =>
    ⟨bound, countOf (values.filter fun x => decide (x ≤ bound))⟩ ::
      bucketsOf rest (values.filter fun x => !decide (x ≤ bound))

theorem toNat_countOf {α : Type} {values : List α} (h : values.length < UInt64.size) :
    (countOf values).toNat = values.length := UInt64.toNat_ofNat_of_lt' h

theorem countOf_concat {α : Type} (values : List α) (x : α) :
    countOf (values ++ [x]) = countOf values + 1 := by
  rw [countOf, List.length_append, List.length_singleton, UInt64.ofNat_add]
  rfl

theorem sumOf_concat (values : List Float) (x : Float) :
    sumOf (values ++ [x]) = sumOf values + x := by
  rw [sumOf, List.foldl_append]
  rfl

theorem saturatingSum_concat (words : List UInt64) (n : UInt64) :
    saturatingSum (words ++ [n]) = saturatingAdd (saturatingSum words) n := by
  rw [saturatingSum, List.foldl_append]
  rfl

theorem toNat_saturatingAdd (a b : UInt64) :
    (saturatingAdd a b).toNat = min (a.toNat + b.toNat) (UInt64.size - 1) := by
  unfold saturatingAdd
  by_cases h : a.toNat + b.toNat < UInt64.size
  · rw [if_pos h, UInt64.toNat_add, Nat.mod_eq_of_lt h]
    omega
  · rw [if_neg h]
    have hlargest : (0xFFFFFFFFFFFFFFFF : UInt64).toNat = UInt64.size - 1 := rfl
    omega

theorem toNat_foldl_saturatingAdd (words : List UInt64) (below : UInt64) :
    (words.foldl saturatingAdd below).toNat =
      min (below.toNat + (words.map UInt64.toNat).sum) (UInt64.size - 1) := by
  induction words generalizing below with
  | nil =>
    have hle : below.toNat ≤ UInt64.size - 1 := Nat.le_sub_one_of_lt below.toNat_lt_size
    rw [List.foldl_nil, List.map_nil, List.sum_nil, Nat.add_zero, Nat.min_eq_left hle]
  | cons word rest ih =>
    rw [List.foldl_cons, ih, toNat_saturatingAdd, List.map_cons, List.sum_cons]
    omega

theorem largest_concat {α : Type} [OfNat α 0] [LT α] [DecidableLT α] (values : List α) (x : α) :
    largest (values ++ [x]) = if largest values < x then x else largest values := by
  rw [largest, List.foldl_append]
  rfl

theorem recordIn_bucketsOf (bounds values : List Float) (x : Float) :
    Histogram.recordIn x (bucketsOf bounds values) = bucketsOf bounds (values ++ [x]) := by
  -- the values shrink on the way, as each bound takes its own
  induction bounds generalizing values with
  | nil => rfl
  | cons bound rest ih =>
    simp only [bucketsOf, Histogram.recordIn, List.filter_append, List.filter_singleton]
    by_cases h : x ≤ bound
    · simp [h, countOf_concat]
    · simp [h, ih]

theorem emptied_bucketsOf (bounds values : List Float) :
    ((bucketsOf bounds values).map fun b => { b with count := 0 }) = bucketsOf bounds [] := by
  induction bounds generalizing values with
  | nil => rfl
  | cons bound rest ih =>
    rw [bucketsOf, List.map_cons, ih]
    rfl

/-- The buckets of some values, if any bound is kept. -/
def histogramOf (bounds values : List Float) : Option (List Bucket) :=
  match Histogram.keptBounds bounds with
  | [] => none
  | kept => some (bucketsOf kept values)

/-- Buckets with their bounds in another unit. -/
def scaleBounds (divisor : Float) (buckets : List Bucket) : List Bucket :=
  buckets.map fun b => ⟨b.upperBound / divisor, b.count⟩

/-- The histogram with the buckets of some values. -/
def Histogram.of? (bounds values : List Float) : Option Histogram :=
  (histogramOf bounds values).map Histogram.mk

namespace Histogram

theorem ofBounds?_eq_of? (bounds : List Float) : ofBounds? bounds = of? bounds [] := by
  have hempty : ∀ kept : List Float, (kept.map fun b => (⟨b, 0⟩ : Bucket)) = bucketsOf kept [] := by
    intro kept
    induction kept with
    | nil => rfl
    | cons bound rest ih =>
      rw [List.map_cons, ih]
      rfl
  unfold ofBounds? of? histogramOf
  cases keptBounds bounds with
  | nil => rfl
  | cons bound rest => exact congrArg (some ∘ mk) (hempty (bound :: rest))

theorem record_of? (bounds values : List Float) (x : Float) :
    (of? bounds values).map (·.record x) = of? bounds (values ++ [x]) := by
  unfold of? histogramOf
  cases keptBounds bounds with
  | nil => rfl
  | cons bound rest => exact congrArg (some ∘ mk) (recordIn_bucketsOf (bound :: rest) values x)

end Histogram

/-! ## Recipes -/

namespace Recipe

/-- The recipes whose instruments accumulate what they are given. -/
inductive Accumulates : Recipe World → Prop
  | counter : Accumulates counter
  | timer (bounds : List Span) : Accumulates (timer bounds)
  | summary (scale : Float) (bounds : List Float) : Accumulates (summary scale bounds)

/-- The snapshot for a list of amounts, times in the given unit. -/
def report (unit : TimeUnit) (amounts : List Amount) : Recipe World → Snapshot
  | counter => ⟨[⟨.count, sumOf (amounts.map Amount.toNumber)⟩], none⟩
  | timer bounds =>
    let nanos := amounts.map Amount.toNanos
    let buckets := histogramOf (bounds.map fun b => b.nanosWord.toFloat)
      (amounts.map Amount.toNumber)
    ⟨[⟨.count, (countOf amounts).toFloat⟩,
      ⟨.totalTime, unit.scaleNanos (saturatingSum nanos).toFloat⟩,
      ⟨.max, unit.scaleNanos (largest nanos).toFloat⟩],
      buckets.map (scaleBounds unit.nanosPerUnit)⟩
  | summary _ bounds =>
    let numbers := amounts.map Amount.toNumber
    ⟨[⟨.count, (countOf amounts).toFloat⟩, ⟨.total, sumOf numbers⟩, ⟨.max, largest numbers⟩],
      (histogramOf bounds numbers).map (scaleBounds 1)⟩
  | _ => ⟨[], none⟩

/-- The instrument of a recipe that holds a list of amounts. -/
def holding (amounts : List Amount) : Recipe World → Instrument World
  | counter => .counter (some ⟨sumOf (amounts.map Amount.toNumber)⟩)
  | timer bounds =>
    let nanos := amounts.map Amount.toNanos
    .timer (some ⟨countOf amounts, saturatingSum nanos, largest nanos,
      Histogram.of? (bounds.map fun b => b.nanosWord.toFloat) (amounts.map Amount.toNumber)⟩)
  | summary scale bounds =>
    let numbers := amounts.map Amount.toNumber
    .summary (some ⟨scale, countOf amounts, sumOf numbers, largest numbers,
      Histogram.of? bounds numbers⟩)
  | recipe => recipe.instrument

theorem instrument_eq_holding (recipe : Recipe World) : recipe.instrument = recipe.holding [] := by
  cases recipe with
  | timer bounds => simp only [instrument, holding, Timer.start, Histogram.ofBounds?_eq_of?]; rfl
  | summary scale bounds =>
    simp only [instrument, holding, Summary.start, Histogram.ofBounds?_eq_of?]; rfl
  | counter => rfl
  | gauge value => rfl
  | longTasks => rfl
  | functionCounter count => rfl
  | functionTimer read unit => rfl
  | custom measurements => rfl

theorem holding_of_rejected (recipe : Recipe World) (amounts : List Amount) (recording : Recording)
    (h : (recipe.holding amounts).accepted? recording = none) :
    recipe.holding amounts =
      recipe.holding (amounts ++ ((recipe.holding amounts).accepted? recording).toList) := by
  rw [h, Option.toList_none, List.append_nil]

theorem apply_holding_counter (amounts : List Amount) (recording : Recording) :
    recording.apply ((counter : Recipe World).holding amounts) =
      counter.holding
        (amounts ++ (((counter : Recipe World).holding amounts).accepted? recording).toList) := by
  cases recording with
  | increment x =>
    by_cases h : Counter.accepts x = true
    · simp only [Recording.apply, holding, Instrument.increment, Counter.increment,
        Instrument.accepted?, h, if_true, Option.toList_some, List.map_append, List.map_singleton,
        sumOf_concat]
      rfl
    · simp only [Recording.apply, holding, Instrument.increment, Counter.increment,
        Instrument.accepted?, h, Bool.false_eq_true, if_false, Option.toList_none, List.append_nil]
  | _ => exact holding_of_rejected .counter amounts _ rfl

/-- A span is always accepted by a timer, and added to what it holds. -/
theorem recordSpan_holding_timer (bounds : List Span) (amounts : List Amount) (span : Span) :
    ((timer bounds : Recipe World).holding amounts).recordSpan span =
      (timer bounds).holding (amounts ++ [.nanos span.nanosWord]) := by
  simp only [holding, Instrument.recordSpan, Timer.record, List.map_append, List.map_singleton,
    countOf_concat, saturatingSum_concat, largest_concat, ← Histogram.record_of?]
  rfl

theorem apply_holding_timer (bounds : List Span) (amounts : List Amount) (recording : Recording) :
    recording.apply ((timer bounds : Recipe World).holding amounts) =
      (timer bounds).holding
        (amounts ++
          (((timer bounds : Recipe World).holding amounts).accepted? recording).toList) := by
  cases recording with
  | span s => exact recordSpan_holding_timer bounds amounts s
  | seconds x =>
    cases hspan : Span.ofSeconds? x with
    | none =>
      have hstays : ((timer bounds : Recipe World).holding amounts).recordSeconds x =
          (timer bounds).holding amounts := by
        simp [holding, Instrument.recordSeconds, Timer.recordSeconds, hspan]
      refine hstays.trans (holding_of_rejected _ amounts (.seconds x) ?_)
      simp [holding, Instrument.accepted?, hspan]
    | some s =>
      have hrecords : ((timer bounds : Recipe World).holding amounts).recordSeconds x =
          ((timer bounds).holding amounts).recordSpan s := by
        simp [holding, Instrument.recordSeconds, Timer.recordSeconds, Instrument.recordSpan, hspan]
      refine hrecords.trans ((recordSpan_holding_timer bounds amounts s).trans ?_)
      simp [holding, Instrument.accepted?, hspan]
  | _ => exact holding_of_rejected (.timer bounds) amounts _ rfl

theorem apply_holding_summary (scale : Float) (bounds : List Float) (amounts : List Amount)
    (recording : Recording) :
    recording.apply ((summary scale bounds : Recipe World).holding amounts) =
      (summary scale bounds).holding (amounts ++
        (((summary scale bounds : Recipe World).holding amounts).accepted? recording).toList) := by
  cases recording with
  | amount x =>
    by_cases h : Summary.accepts (x * scale) = true
    · simp only [Recording.apply, holding, Instrument.recordAmount, Summary.record,
        Instrument.accepted?, h, if_true, Option.toList_some, List.map_append, List.map_singleton,
        countOf_concat, sumOf_concat, largest_concat, ← Histogram.record_of?]
      rfl
    · simp only [Recording.apply, holding, Instrument.recordAmount, Summary.record,
        Instrument.accepted?, h, Bool.false_eq_true, if_false, Option.toList_none, List.append_nil]
  | _ => exact holding_of_rejected (.summary scale bounds) amounts _ rfl

/-- A recording adds the amount that is accepted, if any, to what an instrument holds. -/
theorem apply_holding {recipe : Recipe World} (h : recipe.Accumulates) (amounts : List Amount)
    (recording : Recording) :
    recording.apply (recipe.holding amounts) =
      recipe.holding (amounts ++ ((recipe.holding amounts).accepted? recording).toList) := by
  cases h with
  | counter => exact apply_holding_counter amounts recording
  | timer bounds => exact apply_holding_timer bounds amounts recording
  | summary scale bounds => exact apply_holding_summary scale bounds amounts recording

/-- A snapshot reports all amounts that an instrument holds, and leaves it without any. -/
theorem take_holding {recipe : Recipe World} (h : recipe.Accumulates) (amounts : List Amount)
    (unit : TimeUnit) (world : World) (now : UInt64) :
    (recipe.holding amounts).take unit world now =
      (recipe.report unit amounts, recipe.holding []) := by
  cases h with
  | counter => rfl
  | timer bounds =>
    -- a snapshot has buckets exactly if a bound is kept
    simp only [holding, report, Instrument.take, Timer.take, Histogram.of?, histogramOf]
    cases Histogram.keptBounds (bounds.map fun b => b.nanosWord.toFloat) with
    | nil => rfl
    | cons bound rest =>
      simp only [Option.map_some, Histogram.take, emptied_bucketsOf]
      rfl
  | summary scale bounds =>
    simp only [holding, report, Instrument.take, Summary.take, Histogram.of?, histogramOf]
    cases Histogram.keptBounds bounds with
    | nil => rfl
    | cons bound rest =>
      simp only [Option.map_some, Histogram.take, emptied_bucketsOf]
      rfl

/-- Measuring reads what a snapshot would report. -/
theorem measure_holding {recipe : Recipe World} (h : recipe.Accumulates) (amounts : List Amount)
    (unit : TimeUnit) (world : World) (now : UInt64) :
    (recipe.holding amounts).measure unit world now =
      (recipe.report unit amounts).measurements := by
  cases h with
  | counter => rfl
  | timer bounds => rfl
  | summary scale bounds => rfl

end Recipe

end Telemetry
