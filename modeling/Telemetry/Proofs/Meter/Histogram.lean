import Telemetry.Proofs.Decimal.Order
import Telemetry.Proofs.Meter.Tally

/-!
# What the buckets of a histogram count

The bounds of a histogram are sorted by a total order of numbers, in which the zeros are two, and
merged by an equality in which they are one. On numbers that are not NaN both agree with the
comparison that values are counted by, so a bucket counts exactly the values between the bound
before it and its own, and the counts up to a bound add up to the number of values up to it.

## Main definitions

- `Histogram.Orders` — the finite ones of some bounds, in order and each once
- `Histogram.intervals` — the bounds of the buckets, each with the one before it
- `Histogram.after` — a histogram after values were recorded and buckets taken
- `Histogram.valuesSince` — the values recorded since buckets were last taken

## Main statements

- `Histogram.orders_keptBounds` — which bounds are kept
- `Histogram.buckets_after` — a run leaves the buckets of the values recorded since the last take
- `Histogram.cumulative_bucketsOf` — what the counts of buckets add up to
- `Histogram.counts_exact` — what is counted in buckets that are taken, after any run
-/

namespace Telemetry

namespace Decimal

/-- The rank of a number by its place in the total order, in which the zeros are two. -/
theorem rank_decode {x : Float} (h : x.isNaN = false) :
    (decode x).rank = if totalOrderKey x < 0 then totalOrderKey x + 1 else totalOrderKey x := by
  have hlt := x.toBits.toNat_lt
  have hnan : Binary.ofFields (x.toBits.toNat / 0x8000000000000000 == 1)
      (x.toBits.toNat / leadingBit % 2048) (x.toBits.toNat % leadingBit) ≠ .nan := by
    change decode x ≠ .nan
    rw [Ne, ← isNaN_iff, h]
    decide
  refine (rank_ofFields hnan).trans ?_
  unfold totalOrderKey
  generalize x.toBits.toNat = n at *
  dsimp only
  have hsign : n / 0x8000000000000000 = 0 ∨ n / 0x8000000000000000 = 1 := by omega
  simp only [leadingBit, beq_iff_eq] at *
  split_ifs <;> omega

theorem le_of_totalOrderKey_le {x y : Float} (hx : x.isNaN = false) (hy : y.isNaN = false)
    (h : totalOrderKey x ≤ totalOrderKey y) : x ≤ y := by
  rw [le_iff_rank_le hx hy, rank_decode hx, rank_decode hy]
  split <;> split <;> omega

end Decimal

namespace Histogram

open Decimal

/-! ## Bounds -/

theorem mem_of_mem_dropRepeats {x y : Float} {rest : List Float} (h : y ∈ dropRepeats x rest) :
    y ∈ rest := by
  induction rest generalizing x with
  | nil => exact h
  | cons z rest ih =>
    unfold dropRepeats at h
    split at h
    · exact List.mem_cons_of_mem _ (ih h)
    · rcases List.mem_cons.1 h with rfl | h
      · exact List.mem_cons_self
      · exact List.mem_cons_of_mem _ (ih h)

theorem exists_beq_of_mem {x z : Float} {rest : List Float}
    (hnumbers : ∀ y ∈ x :: rest, y.isNaN = false) (h : z ∈ x :: rest) :
    ∃ y ∈ x :: dropRepeats x rest, (y == z) = true := by
  have hx := hnumbers x List.mem_cons_self
  have hself : (x == x) = true := (beq_iff_rank_eq hx hx).2 rfl
  induction rest generalizing x with
  | nil =>
    obtain rfl := List.mem_singleton.1 h
    exact ⟨z, List.mem_cons_self, hself⟩
  | cons y rest ih =>
    have hy := hnumbers y (List.mem_cons_of_mem x List.mem_cons_self)
    unfold dropRepeats
    rcases List.mem_cons.1 h with rfl | h
    · exact ⟨z, List.mem_cons_self, hself⟩
    by_cases heq : (x == y) = true
    · rw [if_pos heq]
      rcases List.mem_cons.1 h with rfl | h
      · exact ⟨x, List.mem_cons_self, heq⟩
      · have hsublist : (x :: rest).Sublist (x :: y :: rest) := .cons_cons x (.cons y (.refl rest))
        exact ih (fun w hw => hnumbers w (hsublist.subset hw)) (List.mem_cons_of_mem x h) hx hself
    · rw [if_neg heq]
      obtain ⟨w, hw, hwz⟩ := ih (fun w hw => hnumbers w (List.mem_cons_of_mem x hw)) h hy
        ((beq_iff_rank_eq hy hy).2 rfl)
      exact ⟨w, List.mem_cons_of_mem x hw, hwz⟩

/-- Of sorted numbers without repeats each is smaller than all behind it. -/
theorem pairwise_dropRepeats {x : Float} {rest : List Float}
    (hnumbers : ∀ y ∈ x :: rest, y.isNaN = false) (h : (x :: rest).Pairwise (· ≤ ·)) :
    (x :: dropRepeats x rest).Pairwise (· < ·) := by
  induction rest generalizing x with
  | nil => exact List.pairwise_singleton ..
  | cons y rest ih =>
    obtain ⟨hhead, htail⟩ := List.pairwise_cons.1 h
    have hx := hnumbers x List.mem_cons_self
    have hrest := fun z hz => hnumbers z (List.mem_cons_of_mem x hz)
    have hy := hrest y List.mem_cons_self
    unfold dropRepeats
    by_cases heq : (x == y) = true
    · rw [if_pos heq]
      have hsublist : (x :: rest).Sublist (x :: y :: rest) := .cons_cons x (.cons y (.refl rest))
      exact ih (fun z hz => hnumbers z (hsublist.subset hz)) (h.sublist hsublist)
    · rw [if_neg heq]
      have hlater := ih hrest htail
      have hlt : x < y := by
        have hle := hhead y List.mem_cons_self
        rw [beq_iff_rank_eq hx hy] at heq
        rw [le_iff_rank_le hx hy] at hle
        rw [lt_iff_rank_lt hx hy]
        omega
      refine List.pairwise_cons.2 ⟨fun z hz => ?_, hlater⟩
      rcases List.mem_cons.1 hz with rfl | hz
      · exact hlt
      · have hz' := hrest z (List.mem_cons_of_mem _ (mem_of_mem_dropRepeats hz))
        have hyz := (List.pairwise_cons.1 hlater).1 z hz
        rw [lt_iff_rank_lt hx hy] at hlt
        rw [lt_iff_rank_lt hy hz'] at hyz
        exact (lt_iff_rank_lt hx hz').2 (hlt.trans hyz)

/-- Of some bounds the finite ones are kept, in ascending order and no two of them equal. -/
structure Orders (kept bounds : List Float) : Prop where
  finite : ∀ b ∈ kept, b ∈ bounds ∧ b.isFinite = true
  covers : ∀ b ∈ bounds, b.isFinite = true → ∃ k ∈ kept, (k == b) = true
  ascending : kept.Pairwise fun a b => a < b ∧ (a == b) = false

theorem beq_eq_false_of_lt {x y : Float} (hx : x.isNaN = false) (hy : y.isNaN = false)
    (h : x < y) : (x == y) = false := by
  rw [Bool.eq_false_iff, Ne, beq_iff_rank_eq hx hy]
  exact ((lt_iff_rank_lt hx hy).1 h).ne

theorem orders_mergeEqual {sorted bounds : List Float}
    (hmem : ∀ b, b ∈ sorted ↔ b ∈ bounds ∧ b.isFinite = true) (h : sorted.Pairwise (· ≤ ·)) :
    Orders (mergeEqual sorted) bounds := by
  cases sorted with
  | nil =>
    refine ⟨fun b hb => absurd hb List.not_mem_nil, fun b hb hfinite => ?_, .nil⟩
    exact absurd ((hmem b).2 ⟨hb, hfinite⟩) List.not_mem_nil
  | cons x rest =>
    have hnumbers : ∀ y ∈ x :: rest, y.isNaN = false := fun y hy =>
      isNaN_of_isFinite ((hmem y).1 hy).2
    have hkept : ∀ y ∈ mergeEqual (x :: rest), y ∈ x :: rest := by
      intro y hy
      rcases List.mem_cons.1 hy with rfl | hy
      · exact List.mem_cons_self
      · exact List.mem_cons_of_mem x (mem_of_mem_dropRepeats hy)
    refine ⟨fun b hb => (hmem b).1 (hkept b hb), fun b hb hfinite => ?_, ?_⟩
    · exact exists_beq_of_mem hnumbers ((hmem b).2 ⟨hb, hfinite⟩)
    · refine (pairwise_dropRepeats hnumbers h).imp_of_mem fun ha hb hlt => ⟨hlt, ?_⟩
      exact beq_eq_false_of_lt (hnumbers _ (hkept _ ha)) (hnumbers _ (hkept _ hb)) hlt

/-- The total order refines the comparison of numbers, so sorting by it puts the bounds in order. -/
theorem orders_keptBounds (bounds : List Float) : Orders (keptBounds bounds) bounds := by
  have hmem : ∀ b, b ∈ (bounds.filter (·.isFinite)).mergeSort (fun a b =>
      decide (totalOrderKey a ≤ totalOrderKey b)) ↔ b ∈ bounds ∧ b.isFinite = true := by
    intro b
    rw [List.mem_mergeSort, List.mem_filter]
  have hsorted : ((bounds.filter (·.isFinite)).mergeSort fun a b =>
      decide (totalOrderKey a ≤ totalOrderKey b)).Pairwise fun a b =>
        decide (totalOrderKey a ≤ totalOrderKey b) = true := by
    refine List.pairwise_mergeSort (fun a b c hab hbc => ?_) (fun a b => ?_) _
    · exact decide_eq_true (Int.le_trans (of_decide_eq_true hab) (of_decide_eq_true hbc))
    · simpa using Int.le_total (totalOrderKey a) (totalOrderKey b)
  refine orders_mergeEqual hmem (hsorted.imp_of_mem fun ha hb hle => ?_)
  exact le_of_totalOrderKey_le (isNaN_of_isFinite ((hmem _).1 ha).2)
    (isNaN_of_isFinite ((hmem _).1 hb).2) (of_decide_eq_true hle)

theorem ofBounds?_eq_none_iff (bounds : List Float) :
    ofBounds? bounds = none ↔ ∀ b ∈ bounds, b.isFinite = false := by
  obtain ⟨hfinite, hcovers, -⟩ := orders_keptBounds bounds
  unfold ofBounds?
  cases hkept : keptBounds bounds with
  | nil =>
    refine iff_of_true rfl fun b hb => Bool.eq_false_iff.2 fun h => ?_
    obtain ⟨k, hk, -⟩ := hcovers b hb h
    rw [hkept] at hk
    exact List.not_mem_nil hk
  | cons b rest =>
    refine iff_of_false (Option.some_ne_none _) fun h => ?_
    obtain ⟨hb, htrue⟩ := hfinite b (hkept ▸ List.mem_cons_self)
    rw [h b hb] at htrue
    cases htrue

theorem buckets_of_ofBounds? {bounds : List Float} {h : Histogram}
    (hh : ofBounds? bounds = some h) : h.buckets = bucketsOf (keptBounds bounds) [] := by
  rw [ofBounds?_eq_of?, of?, histogramOf] at hh
  cases hkept : keptBounds bounds with
  | nil =>
    rw [hkept] at hh
    cases hh
  | cons b rest =>
    rw [hkept] at hh
    cases hh
    rfl

theorem map_upperBound_bucketsOf (bounds values : List Float) :
    (bucketsOf bounds values).map Bucket.upperBound = bounds := by
  induction bounds generalizing values with
  | nil => rfl
  | cons b rest ih => rw [bucketsOf, List.map_cons, ih]

/-! ## Counts -/

/-- A value is at most one bound and, if there is a bound before it, greater than that. -/
def between (lower : Option Float) (upper x : Float) : Bool :=
  decide (x ≤ upper) && lower.all fun l => decide (l < x)

/-- Bounds, each with the one before it. -/
def intervals (bounds : List Float) : List (Option Float × Float) :=
  (none :: bounds.map some).zip bounds

/-- A value that got past a bound is greater than it. -/
theorem between_some {l b x : Float} (hl : l.isNaN = false) :
    between (some l) b x = (decide (x ≤ b) && !decide (x ≤ l)) := by
  unfold between
  rw [Option.all_some]
  by_cases hle : x ≤ b
  · rw [decide_eq_true hle, Bool.true_and, Bool.true_and, ← decide_not]
    exact decide_eq_decide.2 (lt_iff_not_le hl (isNaN_of_le hle).1)
  · rw [decide_eq_false hle, Bool.false_and, Bool.false_and]

/-- A bucket counts the values between the bound before it and its own. -/
theorem bucketsOf_past {l : Float} {bounds : List Float} (hl : l.isNaN = false)
    (hbounds : ∀ b ∈ bounds, b.isNaN = false) (hlt : (l :: bounds).Pairwise (· < ·))
    (values : List Float) :
    bucketsOf bounds (values.filter fun x => !decide (x ≤ l)) =
      ((some l :: bounds.map some).zip bounds).map fun i =>
        ⟨i.2, countOf (values.filter (between i.1 i.2))⟩ := by
  induction bounds generalizing l with
  | nil => rfl
  | cons b rest ih =>
    obtain ⟨hhead, htail⟩ := List.pairwise_cons.1 hlt
    have hb := hbounds b List.mem_cons_self
    have hlb := hhead b List.mem_cons_self
    -- what got past the bound got past the one before it
    have hpast : (values.filter fun x => !decide (x ≤ l)).filter (fun x => !decide (x ≤ b)) =
        values.filter fun x => !decide (x ≤ b) := by
      rw [List.filter_filter]
      refine List.filter_congr fun x _ => ?_
      by_cases hxl : x ≤ l
      · have hxb : x ≤ b := Decimal.le_trans hxl (Decimal.le_of_lt hlb)
        simp [hxl, hxb]
      · simp [hxl]
    rw [bucketsOf, hpast, ih hb (fun c hc => hbounds c (List.mem_cons_of_mem b hc)) htail,
      List.filter_filter, List.map_cons, List.zip_cons_cons, List.map_cons]
    congr 3
    exact List.filter_congr fun x _ => (between_some hl).symm

theorem bucketsOf_eq_intervals {bounds : List Float} (hbounds : ∀ b ∈ bounds, b.isNaN = false)
    (hlt : bounds.Pairwise (· < ·)) (values : List Float) :
    bucketsOf bounds values =
      (intervals bounds).map fun i => ⟨i.2, countOf (values.filter (between i.1 i.2))⟩ := by
  cases bounds with
  | nil => rfl
  | cons b rest =>
    have hb := hbounds b List.mem_cons_self
    rw [bucketsOf, bucketsOf_past hb (fun c hc => hbounds c (List.mem_cons_of_mem b hc)) hlt,
      intervals, List.map_cons, List.zip_cons_cons, List.map_cons]
    congr 3
    exact List.filter_congr fun x _ => by simp [between]

theorem toNat_countOf_filter {values : List Float} (h : values.length < UInt64.size)
    (p : Float → Bool) : (countOf (values.filter p)).toNat = (values.filter p).length :=
  toNat_countOf ((List.length_filter_le p values).trans_lt h)

theorem saturatingAdd_ofNat {m n : Nat} (h : m + n < UInt64.size) :
    saturatingAdd (UInt64.ofNat m) (UInt64.ofNat n) = UInt64.ofNat (m + n) := by
  have hm : (UInt64.ofNat m).toNat = m := UInt64.toNat_ofNat_of_lt' (by omega)
  have hn : (UInt64.ofNat n).toNat = n := UInt64.toNat_ofNat_of_lt' (by omega)
  rw [saturatingAdd, hm, hn, if_pos h, ← UInt64.ofNat_add]

/-- A value up to a bound is up to the later ones, so these only add values that got past it. -/
theorem length_filter_later {b c : Float} (h : b < c) (values : List Float) :
    (values.filter fun x => decide (x ≤ c)).length =
      (values.filter fun x => decide (x ≤ b)).length +
        ((values.filter fun x => !decide (x ≤ b)).filter fun x => decide (x ≤ c)).length := by
  have hsplit := (values.filter fun x => decide (x ≤ c)).length_eq_length_filter_add fun x =>
    decide (x ≤ b)
  have hcommon : (values.filter fun x => decide (x ≤ c)).filter (fun x => decide (x ≤ b)) =
      values.filter fun x => decide (x ≤ b) := by
    rw [List.filter_filter]
    refine List.filter_congr fun x _ => ?_
    by_cases hxb : x ≤ b
    · have hxc : x ≤ c := Decimal.le_trans hxb (Decimal.le_of_lt h)
      simp [hxb, hxc]
    · simp [hxb]
  rw [hcommon, List.filter_comm] at hsplit
  exact hsplit

/-- The counts of buckets, added to those of `passed` values that are in lower ones. -/
theorem cumulative_go_bucketsOf {bounds : List Float} (hlt : bounds.Pairwise (· < ·))
    {passed : Nat} {values : List Float} (h : passed + values.length < UInt64.size) :
    cumulative.go (UInt64.ofNat passed) (bucketsOf bounds values) = bounds.map fun b =>
      ⟨b, UInt64.ofNat (passed + (values.filter fun x => decide (x ≤ b)).length)⟩ := by
  induction bounds generalizing passed values with
  | nil => rfl
  | cons b rest ih =>
    obtain ⟨hhead, htail⟩ := List.pairwise_cons.1 hlt
    have hsplit := values.length_eq_length_filter_add fun x => decide (x ≤ b)
    simp only [bucketsOf, cumulative.go, List.map_cons, countOf]
    rw [saturatingAdd_ofNat (by omega), ih htail (by omega)]
    congr 1
    refine List.map_congr_left fun c hc => ?_
    rw [length_filter_later (hhead c hc) values, Nat.add_assoc]

/-- The counts of the buckets up to a bound add up to the number of values up to it. -/
theorem cumulative_bucketsOf {bounds : List Float} (hlt : bounds.Pairwise (· < ·))
    {values : List Float} (h : values.length < UInt64.size) :
    cumulative (bucketsOf bounds values) = bounds.map fun b =>
      ⟨b, countOf (values.filter fun x => decide (x ≤ b))⟩ := by
  have hgo := @cumulative_go_bucketsOf bounds hlt 0 values (by omega)
  simp only [Nat.zero_add] at hgo
  exact hgo

theorem sum_bucketsOf {bounds : List Float} (hlt : bounds.Pairwise (· < ·)) {values : List Float}
    (h : values.length < UInt64.size) {last : Float} (hlast : last ∈ bounds.getLast?) :
    ((bucketsOf bounds values).map fun b => b.count.toNat).sum =
      (values.filter fun x => decide (x ≤ last)).length := by
  induction bounds generalizing values with
  | nil => cases hlast
  | cons b rest ih =>
    rw [bucketsOf, List.map_cons, List.sum_cons, toNat_countOf_filter h]
    cases rest with
    | nil =>
      obtain rfl : b = last := by simpa using hlast
      rfl
    | cons c rest =>
      obtain ⟨hhead, htail⟩ := List.pairwise_cons.1 hlt
      rw [List.getLast?_cons_cons] at hlast
      have hblast : b < last := hhead last (List.mem_of_getLast? hlast)
      have hpast := List.length_filter_le (fun x => !decide (x ≤ b)) values
      rw [ih htail (hpast.trans_lt h) hlast, length_filter_later hblast values]

theorem cumulative_scaleBounds (divisor : Float) (buckets : List Bucket) :
    cumulative (scaleBounds divisor buckets) = scaleBounds divisor (cumulative buckets) := by
  have hgo : ∀ below, cumulative.go below (scaleBounds divisor buckets) =
      scaleBounds divisor (cumulative.go below buckets) := by
    induction buckets with
    | nil => exact fun _ => rfl
    | cons b rest ih => exact fun below => congrArg (List.cons _) (ih _)
  exact hgo 0

/-! ## Runs -/

/-- What is done with a histogram: a value is recorded, or its buckets are taken. -/
inductive Event
  | record (value : Float)
  | take (divisor : Float)

def Event.value? : Event → Option Float
  | record value => some value
  | take _ => none

def step (h : Histogram) : Event → Histogram
  | .record value => h.record value
  | .take divisor => (h.take divisor).2

def after (h : Histogram) (events : List Event) : Histogram := events.foldl step h

/-- The values recorded since the last take. -/
def valuesSince (events : List Event) : List Float :=
  (events.rtakeWhile fun event => event.value?.isSome).filterMap Event.value?

theorem valuesSince_concat (events : List Event) (event : Event) :
    valuesSince (events ++ [event]) =
      match event with
      | .record value => valuesSince events ++ [value]
      | .take _ => [] := by
  rw [valuesSince, filterMap_rtakeWhile_concat, valuesSince]
  cases event <;> rfl

/-- Any event leaves the buckets of the values recorded since the last take. -/
theorem buckets_step {bounds values : List Float} {h : Histogram}
    (hh : h.buckets = bucketsOf bounds values) (event : Event) :
    (h.step event).buckets =
      bucketsOf bounds (match event with
        | .record value => values ++ [value]
        | .take _ => []) := by
  cases event with
  | record value =>
    rw [← recordIn_bucketsOf, ← hh]
    rfl
  | take divisor =>
    rw [← emptied_bucketsOf bounds values, ← hh]
    rfl

theorem buckets_after {bounds : List Float} {h : Histogram} (hh : h.buckets = bucketsOf bounds [])
    (events : List Event) : (h.after events).buckets = bucketsOf bounds (valuesSince events) := by
  induction events using List.reverseRecOn with
  | nil => exact hh
  | append_singleton events event ih =>
    rw [valuesSince_concat, after, List.foldl_append]
    exact buckets_step ih event

/-- There is a histogram unless no bound is finite. It keeps the finite bounds in order, and
whatever was recorded and taken, the bucket of a bound counts the values recorded since the last
take that are at most the bound and greater than the one before it. As long as these counts fit in a
word, the counts up to a bound add up to the number of values that are at most the bound, so they
never decrease, and a value above the last bound is in no bucket. -/
theorem counts_exact (bounds : List Float) :
    (ofBounds? bounds = none ↔ ∀ b ∈ bounds, b.isFinite = false) ∧
    ∀ h, ofBounds? bounds = some h →
      let kept := h.buckets.map Bucket.upperBound
      Orders kept bounds ∧ ∀ (events : List Event) (divisor : Float),
        let values := valuesSince events
        let buckets := ((h.after events).take divisor).1
        buckets = (intervals kept).map (fun i =>
          ⟨i.2 / divisor, countOf (values.filter (between i.1 i.2))⟩) ∧
        (values.length < UInt64.size →
          buckets.map (fun b => b.count.toNat) =
            (intervals kept).map (fun i => (values.filter (between i.1 i.2)).length) ∧
          (cumulative buckets).map (fun b => (b.upperBound, b.count.toNat)) =
            kept.map (fun b => (b / divisor, (values.filter fun x => decide (x ≤ b)).length)) ∧
          ((cumulative buckets).map Bucket.count).Pairwise (· ≤ ·) ∧
          ∀ last ∈ kept.getLast?, (buckets.map fun b => b.count.toNat).sum =
            (values.filter fun x => decide (x ≤ last)).length) := by
  refine ⟨ofBounds?_eq_none_iff bounds, fun h hh => ?_⟩
  have hbuckets := buckets_of_ofBounds? hh
  have horders := orders_keptBounds bounds
  generalize keptBounds bounds = kept at hbuckets horders
  have hkept : h.buckets.map Bucket.upperBound = kept := by
    rw [hbuckets, map_upperBound_bucketsOf]
  have hnumbers : ∀ b ∈ kept, b.isNaN = false := fun b hb =>
    isNaN_of_isFinite (horders.finite b hb).2
  have hlt : kept.Pairwise (· < ·) := horders.ascending.imp And.left
  intro kept'
  obtain rfl : kept' = kept := hkept
  refine ⟨horders, fun events divisor => ?_⟩
  intro values buckets
  have htaken : buckets = scaleBounds divisor (bucketsOf kept' values) :=
    congrArg (scaleBounds divisor) (buckets_after hbuckets events)
  have hcounts : buckets = (intervals kept').map fun i =>
      ⟨i.2 / divisor, countOf (values.filter (between i.1 i.2))⟩ := by
    rw [htaken, bucketsOf_eq_intervals hnumbers hlt, scaleBounds, List.map_map]
    rfl
  refine ⟨hcounts, fun hfits => ?_⟩
  have hcumulative : cumulative buckets = kept'.map fun b =>
      ⟨b / divisor, countOf (values.filter fun x => decide (x ≤ b))⟩ := by
    rw [htaken, cumulative_scaleBounds, cumulative_bucketsOf hlt hfits, scaleBounds, List.map_map]
    rfl
  refine ⟨?_, ?_, ?_, fun last hlast => ?_⟩
  · rw [hcounts, List.map_map]
    exact List.map_congr_left fun i _ => toNat_countOf_filter hfits _
  · rw [hcumulative, List.map_map]
    exact List.map_congr_left fun b _ => congrArg (Prod.mk _) (toNat_countOf_filter hfits _)
  · rw [hcumulative, List.map_map, List.pairwise_map]
    refine hlt.imp fun {b c} hbc => UInt64.le_iff_toNat_le.2 ?_
    rw [Function.comp_apply, Function.comp_apply, toNat_countOf_filter hfits, toNat_countOf_filter hfits,
      length_filter_later hbc]
    exact Nat.le_add_right ..
  · rw [htaken, ← sum_bucketsOf hlt hfits hlast, scaleBounds, List.map_map]
    rfl

/-- Both zeros are one bound, and what was recorded before a take is not counted again. -/
theorem counts_exact_tens :
    let bounds := [-0.0, 0.0, notANumber, 10.0, 1.0 / 0.0, 10.0, 50.0]
    let h : Histogram := ⟨[⟨-0.0, 0⟩, ⟨10.0, 0⟩, ⟨50.0, 0⟩]⟩
    let events : List Event :=
      [.record 3.0, .take 1.0, .record 7.0, .record 10.0, .record 60.0, .record (-2.0)]
    let buckets := ((h.after events).take 2.0).1
    ofBounds? bounds = some h ∧ (valuesSince events).length < UInt64.size ∧
      buckets.map (fun b => b.count.toNat) = [1, 2, 0] ∧
      (cumulative buckets).map (fun b => (b.upperBound, b.count.toNat)) =
        [(-0.0, 1), (5.0, 3), (25.0, 3)] := by
  intro bounds h events buckets
  have hfinite : bounds.filter (·.isFinite) = [-0.0, 0.0, 10.0, 10.0, 50.0] := by decide
  have hsorted := @List.mergeSort_of_pairwise _
    (fun a b : Float => decide (totalOrderKey a ≤ totalOrderKey b)) [-0.0, 0.0, 10.0, 10.0, 50.0]
    (by decide)
  have hh : ofBounds? bounds = some h := by
    rw [ofBounds?, keptBounds, hfinite, hsorted]
    rfl
  have hfits : (valuesSince events).length < UInt64.size := by decide
  obtain ⟨hcounts, hcumulative, -⟩ := (((counts_exact bounds).2 h hh).2 events 2.0).2 hfits
  exact ⟨hh, hfits, hcounts.trans (by decide +kernel), hcumulative.trans (by decide +kernel)⟩

end Histogram

end Telemetry
