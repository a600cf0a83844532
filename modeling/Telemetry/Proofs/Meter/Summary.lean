import Telemetry.Meter.Instrument
import Telemetry.Proofs.Decimal.Arithmetic

/-!
# Amounts that a summary leaves out

A summary is to leave out amounts that are below zero or not finite, but what it looks at is the
product of an amount and its scale. No such product is finite if the amount is not, so those amounts
are left out by every summary. An amount below zero is left out if its product is still below zero
after rounding, and then only. A scale that is not above zero loses the sign of every amount, and a
scale of at most one half that of the amounts closest to zero.

## Main definitions

- `recordAll` — a summary after several amounts

## Main statements

- `record_eq_self_iff` — which amounts are left out
- `recordAll_filter` — a scale above one half leaves out what it is to leave out, in every run
- `record_illegal` — for which scales that is so
-/

namespace Telemetry.Summary

open Decimal

/-- A summary after several amounts. -/
def recordAll (s : Summary) (amounts : List Float) : Summary := amounts.foldl record s

/-- Every amount that is to be left out is left out. -/
def Sound (s : Summary) : Prop := ∀ amount, accepts amount = false → s.record amount = s

@[simp] theorem scale_record (s : Summary) (amount : Float) :
    (s.record amount).scale = s.scale := by
  unfold record
  dsimp only
  split <;> rfl

theorem accepts_eq_false_iff (x : Float) :
    accepts x = false ↔ x.isFinite = false ∨ x < 0 := by
  simp only [accepts, Bool.and_eq_false_iff, Bool.not_eq_false', decide_eq_true_eq]

theorem record_eq_self_iff_accepts (s : Summary) (amount : Float) :
    s.record amount = s ↔ accepts (amount * s.scale) = false := by
  unfold record
  dsimp only
  split
  · rename_i haccepts
    rw [haccepts]
    refine iff_of_false (fun h => ?_) (by decide)
    have hcount : s.count + 1 = s.count := congrArg count h
    exact absurd hcount (by simp)
  · rename_i haccepts
    exact iff_of_true rfl (Bool.eq_false_iff.2 haccepts)

/-- An amount is left out exactly if its product is not finite or so far below zero that rounding
leaves something of it. -/
theorem record_eq_self_iff (s : Summary) (amount : Float) :
    s.record amount = s ↔ (amount * s.scale).isFinite = false ∨
      exactValue amount * exactValue s.scale < -2 ^ (-1075 : ℤ) := by
  rw [record_eq_self_iff_accepts, accepts_eq_false_iff]
  by_cases hfinite : (amount * s.scale).isFinite = true
  · obtain ⟨hamount, hscale⟩ := isFinite_of_isFinite_mul hfinite
    rw [mul_lt_zero_iff hamount hscale]
  · rw [Bool.not_eq_true] at hfinite
    exact iff_of_true (.inl hfinite) (.inl hfinite)

theorem record_of_not_isFinite (s : Summary) {amount : Float} (h : amount.isFinite = false) :
    s.record amount = s := by
  refine (record_eq_self_iff s amount).2 (.inl (Bool.eq_false_iff.2 fun hfinite => ?_))
  rw [(isFinite_of_isFinite_mul hfinite).1] at h
  cases h

/-- Half of the least number above zero. -/
theorem half_least : (2 : ℚ) ^ (-1074 : ℤ) * 2⁻¹ = 2 ^ (-1075 : ℤ) := by
  rw [← zpow_sub_one₀ two_ne_zero]
  rfl

theorem sound_of_half_lt {s : Summary} (h : s.scale.isFinite = false ∨ 0.5 < s.scale) :
    s.Sound := by
  intro amount hamount
  rw [record_eq_self_iff]
  by_cases hfinite : (amount * s.scale).isFinite = true
  · obtain ⟨hx, hscale⟩ := isFinite_of_isFinite_mul hfinite
    have hneg : amount < 0 := ((accepts_eq_false_iff amount).1 hamount).resolve_left (by simp [hx])
    have hhalf : 2⁻¹ < exactValue s.scale := by
      have hlt := h.resolve_left (by simp [hscale])
      rw [lt_iff_exactValue_lt (by decide +kernel) hscale] at hlt
      exact lt_of_eq_of_lt (by decide +kernel) hlt
    have hpos : (0 : ℚ) < 2 ^ (-1074 : ℤ) := by positivity
    right
    calc exactValue amount * exactValue s.scale
        ≤ -2 ^ (-1074 : ℤ) * exactValue s.scale :=
          mul_le_mul_of_nonneg_right (exactValue_le_of_neg hx hneg)
            (le_trans (by norm_num) hhalf.le)
      _ < -2 ^ (-1074 : ℤ) * 2⁻¹ := mul_lt_mul_of_neg_left hhalf (neg_lt_zero.2 hpos)
      _ = -2 ^ (-1075 : ℤ) := by rw [neg_mul, half_least]
  · exact .inl (Bool.eq_false_iff.2 hfinite)

/-- The number closest to zero from below. -/
def leastBelowZero : Float := Float.ofBits 0x8000000000000001

theorem half_lt_of_sound {s : Summary} (h : s.Sound) :
    s.scale.isFinite = false ∨ 0.5 < s.scale := by
  by_cases hscale : s.scale.isFinite = true
  · right
    have hdecode : decode leastBelowZero = .finite true 1 (-1074) := by decide +kernel
    have hfinite : (leastBelowZero * s.scale).isFinite = true :=
      isFinite_least_mul hdecode hscale
    have hrecord := (record_eq_self_iff s leastBelowZero).1 (h _ (by decide +kernel))
    have hvalue := hrecord.resolve_left (by simp [hfinite])
    have hleast : exactValue leastBelowZero = -2 ^ (-1074 : ℤ) := by
      rw [exactValue, hdecode]
      simp [Binary.value]
    rw [lt_iff_exactValue_lt (by decide +kernel) hscale]
    have hpos : (0 : ℚ) < 2 ^ (-1074 : ℤ) := by positivity
    rw [hleast, neg_mul, neg_lt_neg_iff, ← half_least, mul_lt_mul_iff_right₀ hpos] at hvalue
    exact lt_of_eq_of_lt (by decide +kernel) hvalue
  · exact .inl (Bool.eq_false_iff.2 hscale)

/-- A run leaves out what is to be left out if each of its steps does, as they all scale alike. -/
theorem recordAll_filter {s : Summary} (h : s.scale.isFinite = false ∨ 0.5 < s.scale)
    (amounts : List Float) : s.recordAll amounts = s.recordAll (amounts.filter accepts) := by
  induction amounts generalizing s with
  | nil => rfl
  | cons amount rest ih =>
    have hrest : s.recordAll (amount :: rest) = (s.record amount).recordAll (rest.filter accepts) :=
      ih (by rwa [scale_record])
    rw [hrest]
    by_cases haccepts : accepts amount = true
    · rw [List.filter_cons_of_pos haccepts]
      rfl
    · rw [List.filter_cons_of_neg haccepts,
        sound_of_half_lt h amount (Bool.eq_false_iff.2 haccepts)]

/-- An amount that is not finite never changes a summary. An amount below zero, as any other one,
leaves it unchanged exactly if its product with the scale is not finite or is still below zero when
it is rounded. So amounts below zero are always left out if the scale is above one half or not
finite, and by no other scale. -/
theorem record_illegal (s : Summary) :
    (∀ amount, amount.isFinite = false → s.record amount = s) ∧
    (∀ amount, s.record amount = s ↔ (amount * s.scale).isFinite = false ∨
      exactValue amount * exactValue s.scale < -2 ^ (-1075 : ℤ)) ∧
    (s.Sound ↔ s.scale.isFinite = false ∨ 0.5 < s.scale) ∧
    (s.Sound → ∀ amounts, s.recordAll amounts = s.recordAll (amounts.filter accepts)) :=
  ⟨fun _ => record_of_not_isFinite s, record_eq_self_iff s, ⟨half_lt_of_sound, sound_of_half_lt⟩,
    fun h => recordAll_filter (half_lt_of_sound h)⟩

/-- A summary that scales by two records what is left of a run without its illegal amounts. -/
theorem record_illegal_doubled :
    let s := start 2 [10]
    s.scale.isFinite = true ∧ s.Sound ∧ s.record notANumber = s ∧
      s.recordAll [3, -5, notANumber, 1 / 0, 4] = s.recordAll [3, 4] := by
  intro s
  obtain ⟨hspecial, -, hsound, hrun⟩ := record_illegal s
  have hs : s.Sound := hsound.2 (.inr (by decide +kernel))
  refine ⟨by decide +kernel, hs, hspecial _ (by decide +kernel), (hrun hs _).trans ?_⟩
  exact congrArg s.recordAll (by decide +kernel)

/-- Scaled by a number below zero, an amount below zero is counted, added and put into a bucket. By
zero, or by one half if it is the one closest to zero, it is still counted. -/
theorem recorded_below_zero :
    let s := start (-1) [10]
    let next := s.record (-5)
    accepts (-5) = false ∧ next ≠ s ∧ (next.count, next.total, next.max) = (1, 5, 5) ∧
      next.histogram.map (·.buckets.map (·.count)) = some [1] ∧
      ((start 0 []).record (-5)).count = 1 ∧ ((start 0.5 []).record leastBelowZero).count = 1 := by
  intro s next
  refine ⟨by decide +kernel, fun h => ?_, by decide +kernel, by decide +kernel, by decide +kernel,
    by decide +kernel⟩
  have hcount : next.count = s.count := congrArg count h
  revert hcount
  decide +kernel

end Telemetry.Summary
