import Telemetry.Meter.Watched
import Telemetry.Proofs.Decimal.Order

/-!
# The increases of watched totals

A meter that watches a total publishes how much the total rose above its baseline, and the baseline
follows every total that is finite. So the baseline is the last usable reading, whatever was read
before, and the increases of a total that never sinks add up to it.

The two totals of a function timer are watched one by one. Their baselines are readings of the same
take only as long as both are usable or neither is.

## Main definitions

- `watch` — what is published for a reading, and the next baseline
- `lastUsable` — the last finite reading
- `gain` — how much a reading lies above the last usable one before it, as an exact number
- `Publishes` — what is published tells the gains of some readings
- `FunctionTimer.Together` — the baselines of a timer moved both or stayed both

## Main statements

- `watch_snd` — the baseline stays the last usable reading
- `sum_gain` — the gains add up to the last usable reading
- `published_increases` — what function counters and function timers publish in a run
- `baselines_together` — when the baselines of a function timer stay together
-/

namespace Telemetry

open Decimal

variable {World : Type}

/-! ## Readings -/

/-- What is published for a reading, and the next baseline. Nothing is read of what is gone. -/
def watch (baseline : Float) : Option Float → Float × Float
  | none => (notANumber, baseline)
  | some total => advance baseline total

theorem watch_eq (baseline : Float) (reading : Option Float) :
    watch baseline reading =
      match reading.filter Float.isFinite with
      | none => (notANumber, baseline)
      | some r => (increase r baseline, r) := by
  cases reading with
  | none => rfl
  | some r =>
    rw [watch, advance, Option.filter_some]
    split <;> rfl

/-- The readings that are finite. -/
def usable (readings : List (Option Float)) : List Float :=
  readings.filterMap fun reading => reading.filter Float.isFinite

/-- The last reading that is finite, or zero. -/
def lastUsable (readings : List (Option Float)) : Float := (usable readings).getLastD 0

theorem usable_concat (readings : List (Option Float)) (reading : Option Float) :
    usable (readings ++ [reading]) = usable readings ++ (reading.filter Float.isFinite).toList := by
  rw [usable, List.filterMap_append]
  cases h : reading.filter Float.isFinite <;> simp [usable, h]

theorem lastUsable_concat (readings : List (Option Float)) (reading : Option Float) :
    lastUsable (readings ++ [reading]) =
      (reading.filter Float.isFinite).getD (lastUsable readings) := by
  rw [lastUsable, usable_concat]
  cases reading.filter Float.isFinite with
  | none => rw [Option.toList_none, List.append_nil]; rfl
  | some r => simp

theorem isFinite_of_mem_usable {readings : List (Option Float)} {r : Float}
    (h : r ∈ usable readings) : r.isFinite = true := by
  obtain ⟨reading, -, hr⟩ := List.mem_filterMap.1 h
  exact (Option.filter_eq_some_iff.1 hr).2

theorem isFinite_lastUsable (readings : List (Option Float)) :
    (lastUsable readings).isFinite = true := by
  rw [lastUsable, List.getLastD_eq_getLast?]
  cases h : (usable readings).getLast? with
  | none => decide
  | some r => exact isFinite_of_mem_usable (List.mem_of_getLast? h)

/-- A baseline that is the last usable reading is so after the next one. -/
theorem watch_snd (earlier : List (Option Float)) (reading : Option Float) :
    (watch (lastUsable earlier) reading).2 = lastUsable (earlier ++ [reading]) := by
  rw [lastUsable_concat, watch_eq]
  cases reading.filter Float.isFinite <;> rfl

/-! ## Increases -/

/-- A difference of numbers is not rounded. -/
def SubExact (x y : Float) : Prop :=
  (x - y).isFinite = true ∧ exactValue (x - y) = exactValue x - exactValue y

instance (x y : Float) : Decidable (SubExact x y) := inferInstanceAs (Decidable (_ ∧ _))

/-- How much a number lies above another one, as an exact number. -/
def excess (x y : Float) : ℚ := max (exactValue x - exactValue y) 0

section Increase

variable {x y : Float} (hx : x.isFinite = true) (hy : y.isFinite = true)
include hx hy

theorem increase_eq_max : increase x y = max (x - y) 0 := by
  have hnan := isNaN_sub hx hy
  change (if 0 < x - y then x - y else 0) = if x - y ≤ 0 then 0 else x - y
  by_cases h : 0 < x - y
  · rw [if_pos h, if_neg ((lt_iff_not_le (by decide) hnan).1 h)]
  · rw [if_neg h, if_pos (not_not.1 (mt (lt_iff_not_le (by decide) hnan).2 h))]

theorem increase_of_le (h : x ≤ y) : increase x y = 0 := if_neg (not_pos_sub hx hy h)

theorem exactValue_increase (h : SubExact x y) : exactValue (increase x y) = excess x y := by
  obtain ⟨hfinite, hexact⟩ := h
  have hzero : exactValue 0 = 0 := by decide +kernel
  have hle : x - y ≤ 0 ↔ exactValue x - exactValue y ≤ 0 := by
    rw [le_iff_exactValue_le hfinite (by decide), hexact, hzero]
  rw [increase_eq_max hx hy, excess]
  change exactValue (if x - y ≤ 0 then 0 else x - y) = _
  by_cases h : x - y ≤ 0
  · rw [if_pos h, max_eq_right (hle.1 h), hzero]
  · rw [if_neg h, max_eq_left (not_le.1 (mt hle.2 h)).le, hexact]

omit hx hy in
theorem isFinite_increase (h : SubExact x y) : (increase x y).isFinite = true := by
  unfold increase
  split
  · exact h.1
  · decide

end Increase

/-- What is published for some readings, one after another. -/
def increases (baseline : Float) : List (Option Float) → List Float
  | [] => []
  | reading :: rest => (watch baseline reading).1 :: increases (watch baseline reading).2 rest

theorem length_increases (baseline : Float) (readings : List (Option Float)) :
    (increases baseline readings).length = readings.length := by
  induction readings generalizing baseline with
  | nil => rfl
  | cons reading rest ih => exact congrArg (· + 1) (ih _)

theorem increases_append (earlier rest : List (Option Float)) :
    increases 0 (earlier ++ rest) = increases 0 earlier ++ increases (lastUsable earlier) rest := by
  induction earlier using List.reverseRecOn generalizing rest with
  | nil => rfl
  | append_singleton earlier reading ih =>
    rw [List.append_assoc, ih, ih [reading], List.append_assoc, ← watch_snd]
    rfl

/-- What is published for one of the readings depends on the last usable one before it. -/
theorem getElem?_increases (readings : List (Option Float)) (k : Nat) :
    (increases 0 readings)[k]? =
      readings[k]?.map fun reading => (watch (lastUsable (readings.take k)) reading).1 := by
  by_cases hk : k < readings.length
  · have hsplit : readings = readings.take k ++ readings[k] :: readings.drop (k + 1) := by simp
    have hlength : (increases 0 (readings.take k)).length = k := by
      rw [length_increases, List.length_take, min_eq_left hk.le]
    rw [List.getElem?_eq_getElem hk, Option.map_some]
    conv_lhs => rw [hsplit, increases_append, increases]
    rw [List.getElem?_append_right hlength.le, hlength, Nat.sub_self]
    rfl
  · have hlength : (increases 0 readings).length ≤ k := by
      rw [length_increases]
      omega
    rw [List.getElem?_eq_none hlength, List.getElem?_eq_none (not_lt.1 hk)]
    rfl

/-! ## Gains -/

/-- The reading of a take, if it is usable. -/
def usable? (readings : List (Option Float)) (k : Nat) : Option Float :=
  readings[k]?.join.filter Float.isFinite

/-- How much a reading lies above the last usable one before it; nothing if it is not usable. -/
def gain (readings : List (Option Float)) (k : Nat) : ℚ :=
  match usable? readings k with
  | none => 0
  | some r => excess r (lastUsable (readings.take k))

def totalGain (readings : List (Option Float)) : ℚ :=
  ((List.range readings.length).map (gain readings)).sum

theorem totalGain_concat (readings : List (Option Float)) (reading : Option Float) :
    totalGain (readings ++ [reading]) =
      totalGain readings +
        ((reading.filter Float.isFinite).map fun r => excess r (lastUsable readings)).getD 0 := by
  have hearlier : ∀ k ∈ List.range readings.length,
      gain (readings ++ [reading]) k = gain readings k := by
    intro k hk
    have hlt := List.mem_range.1 hk
    rw [gain, gain, usable?, usable?, List.getElem?_append_left hlt,
      List.take_append_of_le_length hlt.le]
  have hlast : gain (readings ++ [reading]) readings.length =
      ((reading.filter Float.isFinite).map fun r => excess r (lastUsable readings)).getD 0 := by
    rw [gain, usable?, List.getElem?_concat_length, List.take_left' rfl, Option.join_some]
    cases reading.filter Float.isFinite <;> rfl
  rw [totalGain, List.length_append, List.length_singleton, List.range_succ, List.map_append,
    List.sum_append, List.map_singleton, List.sum_singleton, hlast, List.map_congr_left hearlier]
  rfl

/-- The usable readings rise from zero. -/
structure Rising (readings : List (Option Float)) : Prop where
  nonneg : ∀ r ∈ usable readings, 0 ≤ r
  pairwise : (usable readings).Pairwise (· ≤ ·)

section Rising

variable {readings : List (Option Float)} {reading : Option Float}

theorem Rising.earlier (h : Rising (readings ++ [reading])) : Rising readings := by
  obtain ⟨hnonneg, hpairwise⟩ := h
  rw [usable_concat] at hnonneg hpairwise
  exact ⟨fun r hr => hnonneg r (List.mem_append_left _ hr), hpairwise.sublist
    (List.sublist_append_left ..)⟩

theorem Rising.lastUsable_le (h : Rising (readings ++ [reading])) {r : Float}
    (hr : reading.filter Float.isFinite = some r) : lastUsable readings ≤ r := by
  obtain ⟨hnonneg, hpairwise⟩ := h
  rw [usable_concat, hr, Option.toList_some] at hnonneg hpairwise
  rw [lastUsable, List.getLastD_eq_getLast?]
  cases hlast : (usable readings).getLast? with
  | none => exact hnonneg r (List.mem_append_right _ List.mem_cons_self)
  | some b =>
    exact (List.pairwise_append.1 hpairwise).2.2 b (List.mem_of_getLast? hlast) r
      List.mem_cons_self

theorem excess_of_le {x y : Float} (hx : x.isFinite = true) (hy : y.isFinite = true) (h : y ≤ x) :
    excess x y = exactValue x - exactValue y :=
  max_eq_left (sub_nonneg.2 ((le_iff_exactValue_le hy hx).1 h))

/-- The gains of a total that never sinks add up to it. -/
theorem sum_gain (h : Rising readings) : totalGain readings = exactValue (lastUsable readings) := by
  induction readings using List.reverseRecOn with
  | nil =>
    have hzero : exactValue 0 = 0 := by decide +kernel
    exact hzero.symm
  | append_singleton earlier reading ih =>
    rw [totalGain_concat, lastUsable_concat, ih h.earlier]
    cases hr : reading.filter Float.isFinite with
    | none => exact add_zero _
    | some r =>
      have hfinite := (Option.filter_eq_some_iff.1 hr).2
      rw [Option.map_some, Option.getD_some, Option.getD_some,
        excess_of_le hfinite (isFinite_lastUsable earlier) (h.lastUsable_le hr), add_sub_cancel]

end Rising

/-- No difference of a usable reading and the last one before it is rounded. -/
def Unrounded (readings : List (Option Float)) : Prop :=
  ∀ k < readings.length, ∀ r ∈ usable? readings k, SubExact r (lastUsable (readings.take k))

instance (readings : List (Option Float)) : Decidable (Unrounded readings) :=
  inferInstanceAs (Decidable (∀ _ < _, ∀ _ ∈ _, _))

theorem Unrounded.earlier {readings : List (Option Float)} {reading : Option Float}
    (h : Unrounded (readings ++ [reading])) : Unrounded readings := by
  intro k hk r hr
  have htake : (readings ++ [reading]).take k = readings.take k :=
    List.take_append_of_le_length hk.le
  have hsame : usable? (readings ++ [reading]) k = usable? readings k := by
    rw [usable?, List.getElem?_append_left hk, usable?]
  rw [← htake]
  exact h k (by rw [List.length_append]; omega) r (hsame ▸ hr)

theorem Unrounded.subExact {readings : List (Option Float)} {reading : Option Float}
    (h : Unrounded (readings ++ [reading])) {r : Float}
    (hr : reading.filter Float.isFinite = some r) : SubExact r (lastUsable readings) := by
  have hlast : usable? (readings ++ [reading]) readings.length = some r := by
    rw [usable?, List.getElem?_concat_length, Option.join_some, hr]
  have hexact := h readings.length (by simp) r hlast
  rwa [List.take_left' rfl] at hexact

/-- What is published for differences that are not rounded adds up to the gains. -/
theorem sum_increases {readings : List (Option Float)} (h : Unrounded readings) :
    (((increases 0 readings).filter (·.isFinite)).map exactValue).sum = totalGain readings := by
  induction readings using List.reverseRecOn with
  | nil => rfl
  | append_singleton earlier reading ih =>
    rw [increases_append, List.filter_append, List.map_append, List.sum_append, ih h.earlier,
      totalGain_concat]
    congr 1
    change ((List.filter _ [(watch (lastUsable earlier) reading).1]).map exactValue).sum = _
    rw [watch_eq]
    cases hr : reading.filter Float.isFinite with
    | none =>
      have hnan : notANumber.isFinite = false := by decide
      simp [hnan]
    | some r =>
      have hexact := h.subExact hr
      have hvalue := exactValue_increase (Option.filter_eq_some_iff.1 hr).2
        (isFinite_lastUsable earlier) hexact
      simp [isFinite_increase hexact, hvalue]

/-- What is published tells the gains of some readings: each usable one is compared with the last
usable one before it, or with zero, and no other one says anything. -/
structure Publishes (readings : List (Option Float)) (published : List Float) : Prop where
  length_eq : published.length = readings.length
  unusable : ∀ {k : Nat} {x : Float}, published[k]? = some x → usable? readings k = none →
    x = notANumber
  usable : ∀ {k : Nat} {x r : Float}, published[k]? = some x → usable? readings k = some r →
    x = max (r - lastUsable (readings.take k)) 0
  backwards : ∀ {k : Nat} {x r : Float}, published[k]? = some x → usable? readings k = some r →
    r ≤ lastUsable (readings.take k) → x = 0
  exact : ∀ {k : Nat} {x r : Float}, published[k]? = some x → usable? readings k = some r →
    SubExact r (lastUsable (readings.take k)) → exactValue x = gain readings k
  gains : Rising readings → totalGain readings = exactValue (lastUsable readings)
  sum : Rising readings → Unrounded readings →
    ((published.filter (·.isFinite)).map exactValue).sum = exactValue (lastUsable readings)

theorem publishes_increases (readings : List (Option Float)) :
    Publishes readings (increases 0 readings) := by
  have htake {k : Nat} {x : Float} (hx : (increases 0 readings)[k]? = some x) :
      x = match usable? readings k with
        | none => notANumber
        | some r => increase r (lastUsable (readings.take k)) := by
    rw [getElem?_increases] at hx
    obtain ⟨reading, hreading, rfl⟩ := Option.map_eq_some_iff.1 hx
    rw [usable?, hreading, Option.join_some, watch_eq]
    cases reading.filter Float.isFinite <;> rfl
  have husable {k : Nat} {x r : Float} (hx : (increases 0 readings)[k]? = some x)
      (hr : usable? readings k = some r) :
      r.isFinite = true ∧ x = increase r (lastUsable (readings.take k)) := by
    refine ⟨(Option.filter_eq_some_iff.1 hr).2, ?_⟩
    rw [htake hx, hr]
  have hbaseline (k : Nat) := isFinite_lastUsable (readings.take k)
  refine ⟨length_increases 0 readings, fun hx hr => ?_, fun hx hr => ?_, fun hx hr hle => ?_,
    fun {k x r} hx hr hexact => ?_, sum_gain, fun hrising hexact => ?_⟩
  · rw [htake hx, hr]
  · obtain ⟨hr, rfl⟩ := husable hx hr
    exact increase_eq_max hr (hbaseline _)
  · obtain ⟨hr, rfl⟩ := husable hx hr
    exact increase_of_le hr (hbaseline _) hle
  · obtain ⟨hfinite, rfl⟩ := husable hx hr
    rw [exactValue_increase hfinite (hbaseline k) hexact, gain, hr]
  · rw [sum_increases hexact, sum_gain hrising]

/-! ## Function counters and function timers -/

namespace FunctionCounter

theorem take_eq (c : FunctionCounter World) (world : World) :
    c.take world = ((watch c.baseline (c.read world)).1,
      { c with baseline := (watch c.baseline (c.read world)).2 }) := by
  unfold take
  cases c.read world <;> rfl

/-- What is published in a run of takes. -/
def published (c : FunctionCounter World) : List World → List Float
  | [] => []
  | world :: rest => (c.take world).1 :: (c.take world).2.published rest

theorem published_eq (c : FunctionCounter World) (worlds : List World) :
    c.published worlds = increases c.baseline (worlds.map c.read) := by
  induction worlds generalizing c with
  | nil => rfl
  | cons world rest ih =>
    rw [published, ih, take_eq]
    rfl

end FunctionCounter

namespace FunctionTimer

theorem rescale_notANumber (t : FunctionTimer World) (unit : TimeUnit) :
    t.rescale notANumber unit = notANumber := by
  have hconvert : ∀ u v : TimeUnit, v.scaleSeconds (u.toSeconds notANumber) = notANumber := by
    intro u v
    cases u <;> cases v <;> decide +kernel
  exact hconvert t.unit unit

theorem take_eq (t : FunctionTimer World) (world : World) (unit : TimeUnit) :
    let count := watch t.countBaseline ((t.read world).map Prod.fst)
    let total := watch t.totalBaseline ((t.read world).map Prod.snd)
    t.take world unit = ((count.1, t.rescale total.1 unit),
      { t with countBaseline := count.2, totalBaseline := total.2 }) := by
  unfold take
  cases t.read world with
  | none =>
    simp only [Option.map_none, watch, rescale_notANumber]
  | some pair => rfl

/-- A take: what there is to read, and the unit of the time that is published. -/
structure Take (World : Type) where
  world : World
  unit : TimeUnit

/-- What is published in a run of takes. -/
def published (t : FunctionTimer World) : List (Take World) → List (Float × Float)
  | [] => []
  | next :: rest =>
    (t.take next.world next.unit).1 :: (t.take next.world next.unit).2.published rest

/-- What the counts of some takes are read as. -/
def counts (t : FunctionTimer World) (takes : List (Take World)) : List (Option Float) :=
  takes.map fun next => (t.read next.world).map Prod.fst

/-- What the total times of some takes are read as, in the unit of the watched total. -/
def totals (t : FunctionTimer World) (takes : List (Take World)) : List (Option Float) :=
  takes.map fun next => (t.read next.world).map Prod.snd

theorem published_eq (t : FunctionTimer World) (takes : List (Take World)) :
    t.published takes = (increases t.countBaseline (t.counts takes)).zip
      (((increases t.totalBaseline (t.totals takes)).zip takes).map fun timed =>
        t.rescale timed.1 timed.2.unit) := by
  induction takes generalizing t with
  | nil => rfl
  | cons next rest ih =>
    rw [published, ih, take_eq]
    rfl

end FunctionTimer

/-- Whatever was usable of a watched total, each take of a function counter publishes how much it
rose since the last usable reading, and so does each take of a function timer for both its totals,
before the time is converted. -/
theorem published_increases (read : World → Option Float) (worlds : List World)
    (readPair : World → Option (Float × Float)) (unit : TimeUnit)
    (takes : List (FunctionTimer.Take World)) :
    let timer := FunctionTimer.start readPair unit
    Publishes (worlds.map read) ((FunctionCounter.start read).published worlds) ∧
      ∃ counted timed,
        timer.published takes =
          counted.zip ((timed.zip takes).map fun next => timer.rescale next.1 next.2.unit) ∧
        Publishes (timer.counts takes) counted ∧ Publishes (timer.totals takes) timed := by
  intro timer
  refine ⟨?_, _, _, timer.published_eq takes, publishes_increases _, publishes_increases _⟩
  rw [FunctionCounter.published_eq]
  exact publishes_increases _

/-- Readings that are not usable neither lose an increase nor repeat one. -/
theorem published_increases_gap :
    let readings := [some 5.0, none, some notANumber, some 8.0]
    let published := (FunctionCounter.start fun reading => reading).published readings
    published = [5.0, notANumber, notANumber, 3.0] ∧ Rising readings ∧ Unrounded readings ∧
      ((published.filter (·.isFinite)).map exactValue).sum = 8 := by
  intro readings published
  have hrising : Rising readings := ⟨by decide +kernel, by decide +kernel⟩
  have hunrounded : Unrounded readings := by decide +kernel
  have hpublishes := (published_increases (fun reading => reading) readings
    (fun _ => none) .seconds []).1
  refine ⟨by decide +kernel, hrising, hunrounded, ?_⟩
  exact (hpublishes.sum hrising hunrounded).trans (by decide +kernel)

/-! ## Baselines of function timers -/

namespace FunctionTimer

/-- A timer after a run of takes. -/
def after (t : FunctionTimer World) (takes : List (Take World)) : FunctionTimer World :=
  takes.foldl (fun t next => (t.take next.world next.unit).2) t

/-- Both baselines were moved to the totals that are read, or neither was moved. -/
def Together (t next : FunctionTimer World) (world : World) : Prop :=
  (next.countBaseline = t.countBaseline ∧ next.totalBaseline = t.totalBaseline) ∨
    t.read world = some (next.countBaseline, next.totalBaseline)

/-- The baselines move together unless exactly one total is usable, and then as well if a total is
its baseline. -/
theorem together_take_iff (t : FunctionTimer World) (world : World) (unit : TimeUnit) :
    t.Together (t.take world unit).2 world ↔
      ∀ count total, t.read world = some (count, total) →
        count.isFinite = total.isFinite ∨ count = t.countBaseline ∨ total = t.totalBaseline := by
  rw [take_eq]
  unfold Together
  cases t.read world with
  | none => simp [watch]
  | some pair =>
    obtain ⟨count, total⟩ := pair
    cases hc : count.isFinite <;> cases ht : total.isFinite <;>
      simp [watch, advance, hc, ht, or_comm]

theorem after_start (read : World → Option (Float × Float)) (unit : TimeUnit)
    (takes : List (Take World)) :
    let t := start read unit
    t.after takes = { t with
      countBaseline := lastUsable (t.counts takes)
      totalBaseline := lastUsable (t.totals takes) } := by
  intro t
  induction takes using List.reverseRecOn with
  | nil => rfl
  | append_singleton takes next ih =>
    have hafter : t.after (takes ++ [next]) =
        ((t.after takes).take next.world next.unit).2 := by
      rw [after, List.foldl_append]
      rfl
    have hcounts : t.counts (takes ++ [next]) =
        t.counts takes ++ [(read next.world).map Prod.fst] := List.map_append
    have htotals : t.totals (takes ++ [next]) =
        t.totals takes ++ [(read next.world).map Prod.snd] := List.map_append
    rw [hafter, ih, take_eq, hcounts, htotals, ← watch_snd, ← watch_snd]
    rfl

/-- The pairs of totals that are read in some takes. -/
def pairs (t : FunctionTimer World) (takes : List (Take World)) : List (Float × Float) :=
  takes.filterMap fun next => t.read next.world

/-- Both totals are usable or neither is. -/
def Paired (pairs : List (Float × Float)) : Prop :=
  ∀ pair ∈ pairs, pair.1.isFinite = pair.2.isFinite

/-- The last pair of usable totals, or zeros. -/
def lastPair (pairs : List (Float × Float)) : Float × Float :=
  (pairs.filter fun pair => pair.1.isFinite).getLastD (0, 0)

/-- The last usable one of the counts or total times is that of the last usable pair. -/
theorem lastUsable_half (t : FunctionTimer World) (takes : List (Take World))
    (half : Float × Float → Float) (hzero : half (0, 0) = 0)
    (hfinite : ∀ pair ∈ t.pairs takes, (half pair).isFinite = pair.1.isFinite) :
    lastUsable (takes.map fun next => (t.read next.world).map half) =
      half (lastPair (t.pairs takes)) := by
  have husable : usable (takes.map fun next => (t.read next.world).map half) =
      ((t.pairs takes).filter fun pair => pair.1.isFinite).map half := by
    rw [← List.filter_congr hfinite, usable, pairs, List.filterMap_map, List.filter_filterMap,
      List.map_filterMap]
    refine List.filterMap_congr fun next _ => ?_
    cases h : t.read next.world with
    | none => simp [h]
    | some pair => by_cases hp : (half pair).isFinite = true <;> simp [h, hp, Option.filter_some]
  rw [lastUsable, husable, lastPair, List.getLastD_eq_getLast?, List.getLastD_eq_getLast?,
    List.getLast?_map]
  cases List.getLast? _ with
  | none => exact hzero.symm
  | some pair => rfl

/-- The two baselines of a function timer move together unless exactly one of the totals is usable
and neither is its baseline already. Each is the last usable total of its own. They are the totals
of one take, with which both published totals are compared, as long as no reading was usable by
half. -/
theorem baselines_together (read : World → Option (Float × Float)) (unit : TimeUnit) :
    (∀ (t : FunctionTimer World) (world : World) (shown : TimeUnit),
      t.Together (t.take world shown).2 world ↔
        ∀ count total, t.read world = some (count, total) →
          count.isFinite = total.isFinite ∨ count = t.countBaseline ∨ total = t.totalBaseline) ∧
    ∀ takes : List (Take World),
      let t := (start read unit).after takes
      let pairs := (start read unit).pairs takes
      t.countBaseline = lastUsable ((start read unit).counts takes) ∧
        t.totalBaseline = lastUsable ((start read unit).totals takes) ∧
        (Paired pairs → (t.countBaseline, t.totalBaseline) = lastPair pairs ∧
          ∀ world shown count total, read world = some (count, total) →
            count.isFinite = true → total.isFinite = true →
            (t.take world shown).1 =
              (max (count - (lastPair pairs).1) 0,
                t.rescale (max (total - (lastPair pairs).2) 0) shown)) := by
  refine ⟨together_take_iff, fun takes => ?_⟩
  intro t pairs
  have hafter : t = _ := after_start read unit takes
  have hcount : t.countBaseline = lastUsable ((start read unit).counts takes) := by rw [hafter]
  have htotal : t.totalBaseline = lastUsable ((start read unit).totals takes) := by rw [hafter]
  refine ⟨hcount, htotal, fun hpaired => ?_⟩
  have hcount' : t.countBaseline = (lastPair pairs).1 := by
    rw [hcount]
    exact lastUsable_half _ takes Prod.fst rfl fun _ _ => rfl
  have htotal' : t.totalBaseline = (lastPair pairs).2 := by
    rw [htotal]
    exact lastUsable_half _ takes Prod.snd rfl fun pair hpair => (hpaired pair hpair).symm
  refine ⟨by rw [hcount', htotal'], fun world shown count total hread hc ht => ?_⟩
  have hread' : t.read world = some (count, total) := by rw [hafter]; exact hread
  rw [← hcount', ← htotal', ← increase_eq_max hc (hcount ▸ isFinite_lastUsable _),
    ← increase_eq_max ht (htotal ▸ isFinite_lastUsable _), take_eq, hread']
  simp [watch, advance, hc, ht]

/-- Takes without a usable total leave both baselines where they were. -/
theorem baselines_together_gap :
    let takes : List (Take (Option (Float × Float))) :=
      [⟨some (5.0, 10.0), .seconds⟩, ⟨none, .seconds⟩, ⟨some (notANumber, 1.0 / 0.0), .seconds⟩]
    let t := start (fun pair => pair) .seconds
    Paired (t.pairs takes) ∧
      ((t.after takes).take (some (8.0, 16.0)) .seconds).1 = (3.0, 6.0) := by
  intro takes t
  have hpaired : Paired (t.pairs takes) := by
    unfold Paired
    decide +kernel
  have htake := (((baselines_together (fun pair => pair) .seconds).2 takes).2.2 hpaired).2
    (some (8.0, 16.0)) .seconds 8.0 16.0 rfl (by decide +kernel) (by decide +kernel)
  exact ⟨hpaired, htake.trans (by decide +kernel)⟩

/-- A count moves its baseline without the total time that was read with it: the next take publishes
a count since then, and a total time since the beginning. -/
theorem baselines_apart :
    let t := start (fun pair : Float × Float => some pair) .seconds
    let next := (t.take (5.0, notANumber) .seconds).2
    ¬t.Together next (5.0, notANumber) ∧
      (next.countBaseline, next.totalBaseline) = (5.0, 0.0) ∧
      (next.take (8.0, 16.0) .seconds).1 = (3.0, 16.0) := by
  intro t next
  refine ⟨fun h => ?_, by decide +kernel, by decide +kernel⟩
  have hhalf := (together_take_iff t _ _).1 h 5.0 notANumber rfl
  revert hhalf
  decide +kernel

end FunctionTimer

end Telemetry
