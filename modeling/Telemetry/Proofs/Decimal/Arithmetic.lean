import Mathlib
import Telemetry.Proofs.Decimal.Order

/-!
# Products and special numbers

A product is rounded: its mantissa is shifted until it has at most 53 bits and its exponent is not
below the least one, and what is lost decides whether the last bit goes up. Nothing is left of a
product of at most half of the least number above zero, so it is a zero of its sign, which is not
below zero. Every other product keeps its sign.

A number that is not finite is not made finite by multiplying it or by subtracting from it.

## Main definitions

- `belowZero` — an unpacked number is below zero

## Main statements

- `roundWithAccuracy_cases` — when rounding leaves nothing
- `mul_lt_zero_iff` — when a product is below zero
- `isFinite_of_isFinite_mul` — the factors of a finite product are finite
- `isFinite_sub_of_not_isFinite`, `sub_of_not_isFinite` — differences of numbers that aren't finite
- `isFinite_least_mul` — the number closest to zero may be multiplied by any number
-/

namespace Telemetry.Decimal

open Float.Model (Format UnpackedFloat)
open Float.Model.UnpackedFloat

/-! ## Numbers that are not finite -/

theorem pack_unpack (x : Float) : Float.ofModel (.pack x.toModel.unpack) = x := by
  have hbits : pack Format.binary64 (unpack Format.binary64 x.toModel.toBits.toBitVec) =
      x.toModel.toBits.toBitVec := pack_unpack_of_valid x.toModel.valid
  exact Float.toBits_inj.1 (UInt64.toBitVec_inj.1 hbits)

theorem isFinite_unpack_pack {a : UnpackedFloat} (h : a.isFinite = false) :
    (unpack Format.binary64 (a.pack Format.binary64)).isFinite = false := by
  cases a with
  | notANumber => decide
  | infinity s => cases s <;> decide
  | zero s => cases h
  | finite s m e hm => cases h

theorem isFinite_of_isFinite_mul {x y : Float} (h : (x * y).isFinite = true) :
    x.isFinite = true ∧ y.isFinite = true := by
  have hmul (a b : UnpackedFloat) (hab : (UnpackedFloat.mul Format.binary64 a b).isFinite ≠ false) :
      a.isFinite = true ∧ b.isFinite = true := by
    cases a <;> cases b <;> first | exact ⟨rfl, rfl⟩ | exact absurd rfl hab
  refine hmul _ _ fun hfinite => ?_
  rw [show (x * y).isFinite = false from isFinite_unpack_pack hfinite] at h
  cases h

theorem isFinite_sub_of_not_isFinite {x : Float} (hx : x.isFinite = false) (y : Float) :
    (x - y).isFinite = false := by
  have hsub (a b : UnpackedFloat) (ha : a.isFinite = false) :
      (UnpackedFloat.sub Format.binary64 a b).isFinite = false := by
    cases a with
    | notANumber => rfl
    | infinity s => cases s <;> cases b <;> first | rfl | (rename_i s; cases s <;> rfl)
    | zero s => cases ha
    | finite s m e hm => cases ha
  exact isFinite_unpack_pack (hsub _ _ hx)

/-- A number that is not finite stays what it is when a finite one is subtracted. -/
theorem sub_of_not_isFinite {x y : Float} (hx : x.isFinite = false) (hy : y.isFinite = true) :
    x - y = x := by
  have hsub (a b : UnpackedFloat) (ha : a.isFinite = false) (hb : b.isFinite = true) :
      UnpackedFloat.sub Format.binary64 a b = a := by
    cases a <;> cases b <;> first | cases ha; done | cases hb; done | rfl
  have hpack := pack_unpack x
  rw [← hsub x.toModel.unpack y.toModel.unpack hx hy] at hpack
  exact hpack

/-- Above zero only one number is not finite. -/
theorem eq_infinity_of_pos {x : Float} (hx : x.isFinite = false) (hpos : 0 < x) : x = 1 / 0 := by
  have hlt : (UnpackedFloat.zero .positive).lt x.toModel.unpack = true := decide_eq_true_iff.1 hpos
  have hunpack : x.toModel.unpack = .infinity .positive := by
    change x.toModel.unpack.isFinite = false at hx
    cases h : x.toModel.unpack with
    | notANumber => rw [h] at hlt; cases hlt
    | infinity s =>
      rw [h] at hlt
      cases s
      · cases hlt
      · rfl
    | zero s => rw [h] at hx; cases hx
    | finite s m e hm => rw [h] at hx; cases hx
  rw [← pack_unpack x, hunpack]
  decide +kernel

/-! ## Shifts -/

/-- A shifted mantissa keeps how the lost bits compare with one half of the last one. -/
theorem shiftRight_exact (m n : Nat) :
    ExtendedMantissa.ofMantissaAndAccuracy m .exact >>> n =
      ⟨m / 2 ^ n, decide (2 ^ n ≤ 2 * (m % 2 ^ n)), decide (2 * (m % 2 ^ n) % 2 ^ n ≠ 0)⟩ := by
  change n.repeat ExtendedMantissa.shiftRightOne _ = _
  induction n with
  | zero => simp [Nat.repeat, ExtendedMantissa.ofMantissaAndAccuracy, Nat.mod_one]
  | succ n ih =>
    have hlt : m % 2 ^ n < 2 ^ n := Nat.mod_lt m (Nat.two_pow_pos n)
    have hsplit : m % 2 ^ (n + 1) = m % 2 ^ n + 2 ^ n * (m / 2 ^ n % 2) := by
      rw [pow_succ, Nat.mod_mul]
    have hhalf : 2 * (m % 2 ^ (n + 1)) % 2 ^ (n + 1) = 2 * (m % 2 ^ n) := by
      rw [pow_succ', Nat.mul_mod_mul_left, Nat.mod_mod_of_dvd m (Dvd.intro_left 2 rfl)]
    -- both lower bits together tell whether anything was lost so far
    have hsticky : 2 ^ n ≤ 2 * (m % 2 ^ n) ∨ 2 * (m % 2 ^ n) % 2 ^ n ≠ 0 ↔ m % 2 ^ n ≠ 0 := by
      by_cases hr : m % 2 ^ n = 0
      · simp [hr]
      · refine iff_of_true ?_ hr
        by_cases hle : 2 ^ n ≤ 2 * (m % 2 ^ n)
        · exact .inl hle
        · rw [Nat.mod_eq_of_lt (not_le.1 hle)]
          omega
    rw [Nat.repeat, ih, ExtendedMantissa.shiftRightOne]
    simp only [ExtendedMantissa.mk.injEq, hhalf]
    refine ⟨?_, ?_, ?_⟩
    · rw [Nat.div_div_eq_div_mul, pow_succ]
    · rw [hsplit, pow_succ]
      rcases Nat.mod_two_eq_zero_or_one (m / 2 ^ n) with hbit | hbit
      · simp [hbit]; omega
      · simp [hbit]; omega
    · rw [← Bool.decide_or, decide_eq_decide, hsticky]
      omega

theorem mantissa_shiftRight (em : ExtendedMantissa) (n : Nat) :
    (em >>> n).mantissa = em.mantissa / 2 ^ n := by
  change (n.repeat ExtendedMantissa.shiftRightOne em).mantissa = _
  induction n with
  | zero => simp [Nat.repeat]
  | succ n ih =>
    rw [Nat.repeat, ExtendedMantissa.shiftRightOne, ih, Nat.div_div_eq_div_mul, pow_succ]

/-- Nothing is left of a shifted mantissa exactly if it was at most one half. -/
theorem roundedMantissa_eq_zero_iff {m n : Nat} (hm : 0 < m) :
    (ExtendedMantissa.ofMantissaAndAccuracy m .exact >>> n).roundedMantissa = 0 ↔
      2 * m ≤ 2 ^ n := by
  have hpos : 0 < 2 ^ n := Nat.two_pow_pos n
  rw [shiftRight_exact, ExtendedMantissa.roundedMantissa]
  by_cases hlt : m < 2 ^ n
  · rw [Nat.div_eq_of_lt hlt, Nat.mod_eq_of_lt hlt]
    by_cases hhalf : 2 ^ n ≤ 2 * m
    · have hrest : 2 * m % 2 ^ n = 2 * m - 2 ^ n := by
        rw [Nat.mod_eq_sub_mod hhalf, Nat.mod_eq_of_lt (by omega)]
      -- exactly one half goes to zero, which is even, and more than one half goes to one
      by_cases heq : 2 * m - 2 ^ n = 0
      · simp [hrest, hhalf, heq, ExtendedMantissa.accuracy, Accuracy.roundToNearestEven]
        omega
      · simp [hrest, hhalf, heq, ExtendedMantissa.accuracy, Accuracy.roundToNearestEven]
        omega
    · have hrest : 2 * m % 2 ^ n = 2 * m := Nat.mod_eq_of_lt (not_le.1 hhalf)
      simp [hrest, hhalf, hm.ne', ExtendedMantissa.accuracy, Accuracy.roundToNearestEven]
      omega
  · have hquotient : 0 < m / 2 ^ n := Nat.div_pos (not_lt.1 hlt) hpos
    have hkept (a : Accuracy) : a.roundToNearestEven (m / 2 ^ n) ≠ 0 := by
      cases a with
      | exact => exact hquotient.ne'
      | inexact o => cases o <;> simp only [Accuracy.roundToNearestEven] <;> omega
    exact iff_of_false (hkept _) (by omega)

/-! ## Rounding -/

theorem shiftToTargetExponent_eq (m : Nat) (e : Int) :
    shiftToTargetExponent Format.binary64 m e .exact =
      let shift := (max ((m.log2 : Int) + 1 + e - 53) (-1074) - e).toNat
      (ExtendedMantissa.ofMantissaAndAccuracy m .exact >>> shift, e + shift) := rfl

/-- Nothing is left of what is at most half of the least number above zero. -/
theorem roundedMantissa_shift_eq_zero_iff {m : Nat} (hm : 0 < m) (e : Int) :
    (shiftToTargetExponent Format.binary64 m e .exact).1.roundedMantissa = 0 ↔
      (m : ℚ) * 2 ^ e ≤ 2 ^ (-1075 : ℤ) := by
  rw [shiftToTargetExponent_eq]
  dsimp only
  rw [roundedMantissa_eq_zero_iff hm]
  obtain ⟨hlow, -⟩ := (Nat.log2_eq_iff hm.ne').1 rfl
  generalize htarget : max ((m.log2 : Int) + 1 + e - 53) (-1074) = target
  have htwice : (2 : ℚ) ^ (-1074 : ℤ) = 2 ^ (-1075 : ℤ) * 2 := by
    rw [show (-1074 : ℤ) = -1075 + 1 from rfl, zpow_add_one₀ two_ne_zero]
  constructor
  · intro hle
    -- so large a shift only comes from the least exponent
    have hlog : m.log2 + 1 ≤ (target - e).toNat := by
      refine (Nat.pow_le_pow_iff_right Nat.one_lt_two).1 (le_trans ?_ hle)
      rw [pow_succ']
      exact Nat.mul_le_mul_left 2 hlow
    have hshift : (((target - e).toNat : ℕ) : ℤ) = -1074 - e := by omega
    have hscaled : (2 * m : ℚ) * 2 ^ e ≤ 2 ^ (-1074 : ℤ) := by
      calc (2 * m : ℚ) * 2 ^ e ≤ 2 ^ (target - e).toNat * 2 ^ e := by
            gcongr
            exact_mod_cast hle
        _ = 2 ^ (-1074 : ℤ) := by
            rw [← zpow_natCast, ← zpow_add₀ two_ne_zero, hshift, sub_add_cancel]
    linarith only [hscaled, htwice]
  · intro hle
    by_contra hgt
    have hscaled : (2 : ℚ) ^ (-1074 : ℤ) < 2 * m * 2 ^ e := by
      calc (2 : ℚ) ^ (-1074 : ℤ) = 2 ^ (-1074 - e) * 2 ^ e := by
            rw [← zpow_add₀ two_ne_zero, sub_add_cancel]
        _ ≤ 2 ^ ((target - e).toNat : ℤ) * 2 ^ e := by
            gcongr
            · exact one_le_two
            · omega
        _ < 2 * m * 2 ^ e := by
            gcongr
            rw [zpow_natCast]
            exact_mod_cast not_le.1 hgt
    linarith only [hscaled, htwice, hle]

theorem shiftToTargetExponent_least (m : Nat) (e : Int) :
    -1074 ≤ (shiftToTargetExponent Format.binary64 m e .exact).2 := by
  rw [shiftToTargetExponent_eq]
  dsimp only
  omega

/-- What is not below the least exponent keeps its leading bit, and at most 53 bits. -/
theorem shiftToTargetExponent_mantissa (m : Nat) {e : Int} (he : -1074 ≤ e) :
    let shifted := (shiftToTargetExponent Format.binary64 m e .exact).1.mantissa
    shifted < 2 ^ 53 ∧ (shifted = 0 ↔ m = 0) := by
  rw [shiftToTargetExponent_eq]
  dsimp only
  rw [mantissa_shiftRight]
  generalize hshift : (max ((m.log2 : Int) + 1 + e - 53) (-1074) - e).toNat = shift
  change m / 2 ^ shift < 2 ^ 53 ∧ (m / 2 ^ shift = 0 ↔ m = 0)
  by_cases hm : m = 0
  · subst hm
    simp
  · obtain ⟨hlow, hhigh⟩ := (Nat.log2_eq_iff hm).1 rfl
    refine ⟨Nat.div_lt_of_lt_mul (hhigh.trans_le ?_), iff_of_false ?_ hm⟩
    · rw [← pow_add]
      exact Nat.pow_le_pow_right Nat.two_pos (by omega)
    · have hle : 2 ^ shift ≤ m := (Nat.pow_le_pow_right Nat.two_pos (by omega)).trans hlow
      exact (Nat.div_pos hle (Nat.two_pow_pos shift)).ne'

/-- Rounding leaves nothing but a zero of at most half of the least number above zero. Of anything
else it leaves at most 53 bits and no exponent below the least one. -/
theorem roundWithAccuracy_cases (s : Sign) {m : Nat} (hm : 0 < m) (e : Int) :
    ((m : ℚ) * 2 ^ e ≤ 2 ^ (-1075 : ℤ) ∧
      roundWithAccuracy Format.binary64 s m e .exact = .zero s) ∨
    (2 ^ (-1075 : ℤ) < (m : ℚ) * 2 ^ e ∧
      ∃ m' e' hm', roundWithAccuracy Format.binary64 s m e .exact = .finite s m' e' hm' ∧
        m' < 2 ^ 53 ∧ -1074 ≤ e') := by
  have hzero := roundedMantissa_shift_eq_zero_iff hm e
  have hleast := shiftToTargetExponent_least m e
  unfold roundWithAccuracy
  generalize shiftToTargetExponent Format.binary64 m e .exact = first at hzero hleast ⊢
  -- rounding up may have added a bit, so the mantissa is shifted a second time
  obtain ⟨hlt, hkept⟩ := shiftToTargetExponent_mantissa first.1.roundedMantissa hleast
  have hleast' := shiftToTargetExponent_least first.1.roundedMantissa first.2
  rw [hzero] at hkept
  dsimp only
  split
  · rename_i hnone
    exact .inl ⟨hkept.1 hnone, rfl⟩
  · rename_i hsome
    exact .inr ⟨not_le.1 (mt hkept.2 hsome), _, _, Nat.pos_of_ne_zero hsome, rfl, hlt, hleast'⟩

/-! ## Signs -/

/-- What was unpacked is a number below zero. -/
def belowZero : UnpackedFloat → Bool
  | .finite s .. => s == .negative
  | .infinity s => s == .negative
  | _ => false

theorem lt_zero_iff (x : Float) : x < 0 ↔ belowZero x.toModel.unpack = true := by
  have hlt : x < 0 ↔ x.toModel.unpack.lt (.zero .positive) = true := decide_eq_true_iff
  rw [hlt]
  cases x.toModel.unpack with
  | notANumber => decide
  | infinity s => cases s <;> decide
  | zero s => cases s <;> decide
  | finite s m e hm => cases s <;> exact Iff.rfl

theorem belowZero_unpack_packComponents {s : Sign} {exponent : BitVec 11} {fraction : BitVec 52}
    (hlast : exponent = -1#11 → fraction = 0#52) (hfirst : exponent = 0#11 → fraction ≠ 0#52) :
    belowZero (unpack Format.binary64 (packComponents Format.binary64 s exponent fraction)) =
      (s == .negative) := by
  unfold UnpackedFloat.unpack
  simp only [unpackMantissa_packComponents, unpackExponent_packComponents,
    unpackSign_packComponents, Sign.ofBitVec_toBitVec]
  by_cases hl : exponent = -1#11
  · rw [if_pos hl, if_pos (hlast hl)]
    rfl
  · rw [if_neg hl]
    by_cases hf : exponent = 0#11
    · rw [if_pos hf, dif_neg (hfirst hf)]
      rfl
    · rw [if_neg hf]
      rfl

/-- A number of at most 53 bits and not below the least exponent keeps its sign when packed. -/
theorem belowZero_unpack_pack {s : Sign} {m : Nat} {e : Int} (hm : 0 < m) (hlt : m < 2 ^ 53)
    (he : -1074 ≤ e) :
    belowZero (unpack Format.binary64 (pack Format.binary64 (.finite s m e hm))) =
      (s == .negative) := by
  unfold UnpackedFloat.pack
  dsimp only
  split
  · exact belowZero_unpack_packComponents (fun _ => rfl) (fun h => absurd h (by decide))
  · rename_i hbiased
    change ¬2048 ≤ (e + 1023 + 52).toNat + 1 at hbiased
    split
    · have htoNat : (BitVec.ofNat 11 (e + 1023 + 52).toNat).toNat = (e + 1023 + 52).toNat := by
        rw [BitVec.toNat_ofNat]
        exact Nat.mod_eq_of_lt (by omega)
      refine belowZero_unpack_packComponents (fun h => ?_) (fun h => ?_)
      · have hlast := congrArg BitVec.toNat h
        change (BitVec.ofNat 11 (e + 1023 + 52).toNat).toNat = 2047 at hlast
        omega
      · have hfirst := congrArg BitVec.toNat h
        change (BitVec.ofNat 11 (e + 1023 + 52).toNat).toNat = 0 at hfirst
        omega
    · rename_i hlog
      change ¬m.log2 + 1 = 53 at hlog
      have hlow := (Nat.log2_lt hm.ne').2 hlt
      have hsmall : m < 2 ^ 52 := (Nat.log2_lt hm.ne').1 (by omega)
      refine belowZero_unpack_packComponents (fun h => absurd h (by decide)) fun _ h => ?_
      have hzero := congrArg BitVec.toNat h
      change m % 2 ^ 52 = 0 at hzero
      rw [Nat.mod_eq_of_lt hsmall] at hzero
      exact hm.ne' hzero

theorem belowZero_unpack_pack_zero (s : Sign) :
    belowZero (unpack Format.binary64 (pack Format.binary64 (.zero s))) = false := by
  cases s <;> decide

/-! ## Products -/

theorem value_finite_mul (s s' : Sign) (m m' : Nat) (e e' : Int) :
    (Binary.finite (s == .negative) m e).value * (Binary.finite (s' == .negative) m' e').value =
      (Binary.finite (s * s' == .negative) (m * m') (e + e')).value := by
  have hproduct : ((m * m' : ℕ) * 2 ^ (e + e') : ℚ) = m * 2 ^ e * (m' * 2 ^ e') := by
    rw [zpow_add₀ two_ne_zero, Nat.cast_mul]
    ring
  simp only [Binary.value, hproduct]
  cases s <;> cases s'
  · exact neg_mul_neg _ _
  · exact neg_mul _ _
  · exact mul_neg _ _
  · rfl

theorem belowZero_round_iff {s : Sign} {m : Nat} {e : Int} (hm : 0 < m) :
    belowZero (unpack Format.binary64 (pack Format.binary64
      (roundWithAccuracy Format.binary64 s m e .exact))) = true ↔
      (Binary.finite (s == .negative) m e).value < -2 ^ (-1075 : ℤ) := by
  have hleast : (0 : ℚ) < 2 ^ (-1075 : ℤ) := by positivity
  have hpos : (0 : ℚ) < m * 2 ^ e := by positivity
  unfold Binary.value
  dsimp only
  rcases roundWithAccuracy_cases s hm e with ⟨hle, hround⟩ | ⟨hgt, m', e', hm', hround, hlt, hlow⟩
  · rw [hround, belowZero_unpack_pack_zero]
    refine iff_of_false Bool.false_ne_true fun h => ?_
    split at h <;> linarith only [h, hle, hpos, hleast]
  · rw [hround, belowZero_unpack_pack hm' hlt hlow]
    split
    · exact iff_of_true ‹_› (neg_lt_neg hgt)
    · exact iff_of_false ‹_› fun h => by linarith only [h, hpos, hleast]

theorem belowZero_mul_iff {a b : UnpackedFloat} (ha : a.isFinite = true) (hb : b.isFinite = true) :
    belowZero (unpack Format.binary64 (pack Format.binary64
      (UnpackedFloat.mul Format.binary64 a b))) = true ↔
      (Binary.ofUnpacked a).value * (Binary.ofUnpacked b).value < -2 ^ (-1075 : ℤ) := by
  have hleast : ¬(0 : ℚ) < -2 ^ (-1075 : ℤ) := by
    have hpos : (0 : ℚ) < 2 ^ (-1075 : ℤ) := by positivity
    exact (neg_neg_of_pos hpos).not_gt
  have hzero (s : Sign) : belowZero (unpack Format.binary64 (pack Format.binary64 (.zero s))) =
      true ↔ (0 : ℚ) < -2 ^ (-1075 : ℤ) := by
    rw [belowZero_unpack_pack_zero]
    exact iff_of_false Bool.false_ne_true hleast
  cases a with
  | notANumber => cases ha
  | infinity s => cases ha
  | zero s =>
    rw [value_zero, zero_mul]
    cases b with
    | notANumber => cases hb
    | infinity s' => cases hb
    | zero s' => exact hzero (s * s')
    | finite s' m' e' hm' => exact hzero (s * s')
  | finite s m e hm =>
    cases b with
    | notANumber => cases hb
    | infinity s' => cases hb
    | zero s' =>
      rw [value_zero, mul_zero]
      exact hzero (s * s')
    | finite s' m' e' hm' =>
      change _ ↔ (Binary.finite (s == .negative) m e).value *
        (Binary.finite (s' == .negative) m' e').value < _
      rw [value_finite_mul]
      exact belowZero_round_iff (Nat.mul_pos hm hm')

/-- A product is below zero exactly if its exact value is more than half of the least number below
it. -/
theorem mul_lt_zero_iff {x y : Float} (hx : x.isFinite = true) (hy : y.isFinite = true) :
    x * y < 0 ↔ exactValue x * exactValue y < -2 ^ (-1075 : ℤ) := by
  rw [lt_zero_iff, exactValue, exactValue, decode_eq_ofUnpacked, decode_eq_ofUnpacked]
  exact belowZero_mul_iff hx hy

/-- A number below zero is no closer to it than the least number. -/
theorem exactValue_le_of_neg {x : Float} (hx : x.isFinite = true) (hneg : x < 0) :
    exactValue x ≤ -2 ^ (-1074 : ℤ) := by
  have hvalue : exactValue x < 0 :=
    ((lt_iff_exactValue_lt hx (by decide)).1 hneg).trans_eq (by decide +kernel)
  obtain ⟨s, m, e, hdecode⟩ := (isFinite_iff x).1 hx
  have hcanonical := canonical_decode x
  rw [exactValue, hdecode] at hvalue ⊢
  rw [hdecode] at hcanonical
  cases s with
  | false =>
    have hnonneg : (0 : ℚ) ≤ m * 2 ^ e := by positivity
    exact absurd hvalue hnonneg.not_gt
  | true =>
    have hpos : (0 : ℚ) < m * 2 ^ e := neg_lt_zero.1 hvalue
    have hm : (1 : ℚ) ≤ m := by
      refine Nat.one_le_cast.2 (Nat.one_le_iff_ne_zero.2 fun hm => ?_)
      rw [hm, Nat.cast_zero, zero_mul] at hpos
      exact lt_irrefl _ hpos
    refine neg_le_neg ?_
    calc (2 : ℚ) ^ (-1074 : ℤ) ≤ 2 ^ e := zpow_le_zpow_right₀ one_le_two hcanonical.1
      _ ≤ m * 2 ^ e := le_mul_of_one_le_left (by positivity) hm

/-! ## Products that do not overflow -/

theorem roundedMantissa_le (em : ExtendedMantissa) : em.roundedMantissa ≤ em.mantissa + 1 := by
  obtain ⟨m, round, sticky⟩ := em
  cases round <;> cases sticky <;>
    simp [ExtendedMantissa.roundedMantissa, ExtendedMantissa.accuracy, Accuracy.roundToNearestEven]
  omega

theorem shiftToTargetExponent_exponent_le {m : Nat} (e : Int) {bits : Nat} (hm : m.log2 ≤ bits) :
    (shiftToTargetExponent Format.binary64 m e .exact).2 ≤ max (max e (-1074)) (e + bits - 52) := by
  rw [shiftToTargetExponent_eq]
  dsimp only
  omega

theorem isFinite_unpack_pack_finite {s : Sign} {m : Nat} {e : Int} (hm : 0 < m) (he : e < 971) :
    (unpack Format.binary64 (pack Format.binary64 (.finite s m e hm))).isFinite = true := by
  have hcomponents {exponent : BitVec 11} {fraction : BitVec 52} (h : exponent ≠ -1#11) :
      (unpack Format.binary64 (packComponents Format.binary64 s exponent fraction)).isFinite =
        true := by
    unfold UnpackedFloat.unpack
    simp only [unpackMantissa_packComponents, unpackExponent_packComponents, if_neg h]
    split
    · split <;> rfl
    · rfl
  unfold UnpackedFloat.pack
  dsimp only
  split
  · rename_i hbiased
    change 2048 ≤ (e + 1023 + 52).toNat + 1 at hbiased
    omega
  · split
    · refine hcomponents fun h => ?_
      have hlast := congrArg BitVec.toNat h
      change (BitVec.ofNat 11 (e + 1023 + 52).toNat).toNat = 2047 at hlast
      rw [BitVec.toNat_ofNat, Nat.mod_eq_of_lt (by omega)] at hlast
      omega
    · exact hcomponents (by decide)

theorem isFinite_round {s : Sign} {m : Nat} {e : Int} (hm : m < 2 ^ 53) (he : e < 970) :
    (unpack Format.binary64 (pack Format.binary64
      (roundWithAccuracy Format.binary64 s m e .exact))).isFinite = true := by
  have hlog {k n : Nat} (h : k < 2 ^ (n + 1)) : k.log2 ≤ n := by
    by_cases hk : k = 0
    · simp [hk]
    · exact Nat.le_of_lt_succ ((Nat.log2_lt hk).2 h)
  have hfirst := shiftToTargetExponent_exponent_le e (hlog hm)
  have hmantissa : (shiftToTargetExponent Format.binary64 m e .exact).1.mantissa ≤ m := by
    rw [shiftToTargetExponent_eq]
    dsimp only
    rw [mantissa_shiftRight]
    exact Nat.div_le_self m _
  unfold roundWithAccuracy
  generalize shiftToTargetExponent Format.binary64 m e .exact = first at hfirst hmantissa ⊢
  have hrounded : first.1.roundedMantissa < 2 ^ 54 := by
    have hup := roundedMantissa_le first.1
    omega
  have hsecond := shiftToTargetExponent_exponent_le first.2 (hlog hrounded)
  dsimp only
  split
  · cases s <;> decide
  · exact isFinite_unpack_pack_finite _ (by omega)

/-- The least number above or below zero may be multiplied by any number. -/
theorem isFinite_least_mul {x y : Float} {s : Bool} (hx : decode x = .finite s 1 (-1074))
    (hy : y.isFinite = true) : (x * y).isFinite = true := by
  have hcanonical := canonical_decode y
  rw [decode_eq_ofUnpacked] at hx hcanonical
  change y.toModel.unpack.isFinite = true at hy
  change (unpack Format.binary64 (pack Format.binary64
    (UnpackedFloat.mul Format.binary64 x.toModel.unpack y.toModel.unpack))).isFinite = true
  revert hx hcanonical hy
  generalize x.toModel.unpack = a, y.toModel.unpack = b
  intro hx hcanonical hy
  have hzero (s : Sign) : (unpack Format.binary64 (pack Format.binary64 (.zero s))).isFinite =
      true := by
    cases s <;> decide
  cases a with
  | notANumber => cases hx
  | infinity t => cases hx
  | zero t => cases hx
  | finite t m e hm =>
    simp only [Binary.ofUnpacked, Binary.finite.injEq] at hx
    obtain ⟨-, rfl, rfl⟩ := hx
    cases b with
    | notANumber => cases hy
    | infinity t' => cases hy
    | zero t' => exact hzero (t * t')
    | finite t' m' e' hm' =>
      obtain ⟨-, hhigh, hlt, -⟩ := hcanonical
      have hbits : 1 * m' < 2 ^ 53 := by
        rw [one_mul]
        exact hlt
      exact isFinite_round hbits (by omega)

end Telemetry.Decimal
