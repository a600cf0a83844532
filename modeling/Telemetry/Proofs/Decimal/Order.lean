import Mathlib
import Telemetry.Decimal.Binary

/-!
# The order of floating-point numbers

Floating-point numbers are compared by sign, exponent and mantissa. That order is told by one
integer for each number, its rank, in which the two zeros agree; and it is the order of the exact
values. So whatever holds of integers and of fractions by their order holds of numbers that can be
compared.

## Main definitions

- `Binary.rank` — the position of a number among all numbers
- `Binary.value`, `exactValue` — the exact value of a finite number

## Main statements

- `decode_eq_ofUnpacked` — numbers are decoded as they are unpacked to be compared
- `le_iff_rank_le`, `lt_iff_rank_lt`, `beq_iff_rank_eq` — comparisons by rank
- `le_iff_exactValue_le`, `lt_iff_exactValue_lt` — comparisons by exact value
- `isNaN_sub` — the difference of finite numbers is a number
- `not_pos_sub` — and no greater than zero if they do not descend
-/

namespace Telemetry.Decimal

open Float.Model (Format UnpackedFloat)
open Float.Model.UnpackedFloat (Sign unpackMantissa unpackExponent unpackSign)

namespace Binary

/-- What the three fields of a number stand for. -/
def ofFields (negative : Bool) (biased fraction : Nat) : Binary :=
  if biased = 2047 then
    if fraction = 0 then .infinite negative else .nan
  else if biased = 0 then .finite negative fraction (-1074)
  else .finite negative (fraction + leadingBit) ((biased : Int) - 1075)

/-- What a number stands for that was unpacked to be compared. -/
def ofUnpacked : UnpackedFloat → Binary
  | .notANumber => .nan
  | .infinity s => .infinite (s == .negative)
  | .zero s => .finite (s == .negative) 0 (-1074)
  | .finite s m e _ => .finite (s == .negative) m e

/-- The mantissa has all its bits, unless the exponent is the least one. -/
def Canonical : Binary → Prop
  | finite _ m e => -1074 ≤ e ∧ e ≤ 971 ∧ m < 2 * leadingBit ∧ (leadingBit ≤ m ∨ e = -1074)
  | _ => True

/-- The position of a number among those of its sign, counted from zero. -/
def magnitude : Binary → Int
  | nan => 0
  | infinite _ => 2047 * leadingBit
  | finite _ m e => (e + 1074) * leadingBit + m

/-- The position of a number among all numbers; both zeros have the same. -/
def rank : Binary → Int
  | nan => 0
  | infinite s => if s then -magnitude (infinite s) else magnitude (infinite s)
  | finite s m e => if s then -magnitude (finite s m e) else magnitude (finite s m e)

/-- The exact value of a finite number. -/
def value : Binary → ℚ
  | finite s m e => if s then -(m * 2 ^ e) else m * 2 ^ e
  | _ => 0

end Binary

/-! ## Bits -/

theorem toNat_unpackMantissa (bits : BitVec 64) :
    (@unpackMantissa Format.binary64 bits).toNat = bits.toNat % leadingBit := by
  simp [unpackMantissa, BitVec.extractLsb, BitVec.extractLsb', leadingBit]

theorem toNat_unpackExponent (bits : BitVec 64) :
    (@unpackExponent Format.binary64 bits).toNat = bits.toNat / leadingBit % 2048 := by
  simp [unpackExponent, BitVec.extractLsb, BitVec.extractLsb', leadingBit,
    Nat.shiftRight_eq_div_pow]

theorem toNat_unpackSign (bits : BitVec 64) :
    (@unpackSign Format.binary64 bits).toNat = bits.toNat / 0x8000000000000000 := by
  have h := bits.isLt
  simp [unpackSign, BitVec.extractLsb, BitVec.extractLsb', Nat.shiftRight_eq_div_pow]
  omega

theorem ofBitVec_beq_negative (bit : BitVec 1) :
    (Sign.ofBitVec bit == .negative) = (bit.toNat == 1) := by
  revert bit
  decide

theorem ofUnpacked_unpack (bits : BitVec 64) :
    Binary.ofUnpacked (UnpackedFloat.unpack Format.binary64 bits) =
      .ofFields (bits.toNat / 0x8000000000000000 == 1) (bits.toNat / leadingBit % 2048)
        (bits.toNat % leadingBit) := by
  have hexponent := toNat_unpackExponent bits
  have hmantissa := toNat_unpackMantissa bits
  have hnormal : (1#1 ++ @unpackMantissa Format.binary64 bits).toNat =
      bits.toNat % leadingBit + leadingBit := by
    have hlt : bits.toNat % leadingBit < 2 ^ 52 := Nat.mod_lt _ (by decide)
    rw [BitVec.toNat_append, hmantissa, ← Nat.shiftLeft_add_eq_or_of_lt hlt, Nat.add_comm]
    rfl
  have hlast : @unpackExponent Format.binary64 bits = -1#11 ↔
      bits.toNat / leadingBit % 2048 = 2047 := by
    rw [← hexponent, BitVec.toNat_inj.symm]
    rfl
  have hfirst : @unpackExponent Format.binary64 bits = 0#11 ↔
      bits.toNat / leadingBit % 2048 = 0 := by
    rw [← hexponent, BitVec.toNat_inj.symm]
    rfl
  have hzero : @unpackMantissa Format.binary64 bits = 0#52 ↔
      bits.toNat % leadingBit = 0 := by
    rw [← hmantissa, BitVec.toNat_inj.symm]
    rfl
  rw [← toNat_unpackSign, ← ofBitVec_beq_negative]
  unfold UnpackedFloat.unpack Binary.ofFields
  by_cases he : bits.toNat / leadingBit % 2048 = 2047
  · rw [if_pos he, if_pos (hlast.2 he)]
    by_cases hm : bits.toNat % leadingBit = 0
    · rw [if_pos hm, if_pos (hzero.2 hm)]
      rfl
    · rw [if_neg hm, if_neg (mt hzero.1 hm)]
      rfl
  · rw [if_neg he, if_neg (mt hlast.1 he)]
    by_cases he' : bits.toNat / leadingBit % 2048 = 0
    · rw [if_pos he', if_pos (hfirst.2 he')]
      by_cases hm : bits.toNat % leadingBit = 0
      · rw [dif_pos (hzero.2 hm), hm]
        rfl
      · rw [dif_neg (mt hzero.1 hm)]
        simp only [Binary.ofUnpacked, hexponent, hmantissa, he']
        rfl
    · rw [if_neg he', if_neg (mt hfirst.1 he')]
      simp only [Binary.ofUnpacked, hexponent, hnormal]
      rfl

/-- Numbers are decoded as they are unpacked to be compared. -/
theorem decode_eq_ofUnpacked (x : Float) : decode x = .ofUnpacked x.toModel.unpack :=
  (ofUnpacked_unpack x.toModel.toBits.toBitVec).symm

theorem canonical_decode (x : Float) : (decode x).Canonical := by
  have hfraction : x.toBits.toNat % leadingBit < leadingBit := Nat.mod_lt _ (by decide)
  have hbiased : x.toBits.toNat / leadingBit % 2048 < 2048 := Nat.mod_lt _ (by decide)
  change (Binary.ofFields _ (x.toBits.toNat / leadingBit % 2048)
    (x.toBits.toNat % leadingBit)).Canonical
  generalize x.toBits.toNat / leadingBit % 2048 = biased at *
  generalize x.toBits.toNat % leadingBit = fraction at *
  unfold Binary.ofFields
  split
  · split <;> trivial
  · split
    · exact ⟨le_rfl, by omega, by omega, .inr rfl⟩
    · exact ⟨by omega, by omega, by omega, .inl (by omega)⟩

theorem isNaN_iff (x : Float) : x.isNaN = true ↔ decode x = .nan := by
  rw [decode_eq_ofUnpacked]
  change x.toModel.unpack.isNaN = true ↔ _
  cases x.toModel.unpack <;> simp [UnpackedFloat.isNaN, Binary.ofUnpacked]

theorem isFinite_iff (x : Float) : x.isFinite = true ↔ ∃ s m e, decode x = .finite s m e := by
  rw [decode_eq_ofUnpacked]
  change x.toModel.unpack.isFinite = true ↔ _
  cases x.toModel.unpack <;> simp [UnpackedFloat.isFinite, Binary.ofUnpacked]

theorem isNaN_of_isFinite {x : Float} (h : x.isFinite = true) : x.isNaN = false := by
  obtain ⟨s, m, e, hdecode⟩ := (isFinite_iff x).1 h
  rw [Bool.eq_false_iff, Ne, isNaN_iff, hdecode]
  exact Binary.noConfusion

/-! ## Comparisons by rank -/

/-- The two lower fields of a number, read as one, are its magnitude. -/
theorem rank_ofFields {negative : Bool} {biased fraction : Nat}
    (h : Binary.ofFields negative biased fraction ≠ .nan) :
    (Binary.ofFields negative biased fraction).rank =
      if negative then -((biased * leadingBit + fraction : Nat) : Int)
      else ((biased * leadingBit + fraction : Nat) : Int) := by
  unfold Binary.ofFields at h ⊢
  by_cases hlast : biased = 2047
  · rw [if_pos hlast] at h ⊢
    by_cases hzero : fraction = 0
    · rw [if_pos hzero, hlast, hzero]
      cases negative <;> rfl
    · exact absurd (if_neg hzero) h
  · rw [if_neg hlast]
    by_cases hfirst : biased = 0
    · rw [if_pos hfirst, hfirst]
      cases negative <;> simp [Binary.rank, Binary.magnitude]
    · rw [if_neg hfirst]
      cases negative <;> simp [Binary.rank, Binary.magnitude, leadingBit] <;> omega

section Rank

variable {s s' : Bool} {m m' : Nat} {e e' : Int}

theorem compare_magnitude (h : (Binary.finite s m e).Canonical)
    (h' : (Binary.finite s' m' e').Canonical) :
    compare (Binary.finite s m e).magnitude (Binary.finite s' m' e').magnitude =
      (compare e e').then (compare m m') := by
  obtain ⟨hlow, -, hlt, hnormal⟩ := h
  obtain ⟨hlow', -, hlt', hnormal'⟩ := h'
  simp only [Binary.magnitude, leadingBit] at *
  rcases lt_trichotomy e e' with he | rfl | he
  · rw [compare_lt_iff_lt.2 he]
    exact compare_lt_iff_lt.2 (by omega)
  · rw [compare_eq_iff_eq.2 (rfl : e = e)]
    rcases lt_trichotomy m m' with hm | rfl | hm
    · rw [compare_lt_iff_lt.2 hm]
      exact compare_lt_iff_lt.2 (by omega)
    · rw [compare_eq_iff_eq.2 (rfl : m = m)]
      exact compare_eq_iff_eq.2 rfl
    · rw [compare_gt_iff_gt.2 hm]
      exact compare_gt_iff_gt.2 (by omega)
  · rw [compare_gt_iff_gt.2 he]
    exact compare_gt_iff_gt.2 (by omega)

theorem magnitude_pos_lt (h : (Binary.finite s m e).Canonical) (hm : 0 < m) :
    0 < (Binary.finite s m e).magnitude ∧
      (Binary.finite s m e).magnitude < (Binary.infinite s).magnitude := by
  obtain ⟨hlow, hhigh, hlt, -⟩ := h
  simp only [Binary.magnitude, leadingBit] at *
  omega

end Rank

theorem abs_rank_lt {a : UnpackedFloat} (h : (Binary.ofUnpacked a).Canonical)
    (hinfinite : ∀ s, a ≠ .infinity s) :
    |(Binary.ofUnpacked a).rank| < (Binary.infinite false).magnitude := by
  cases a with
  | notANumber => decide
  | infinity s => exact absurd rfl (hinfinite s)
  | zero s => cases s <;> decide
  | finite s m e hm =>
    obtain ⟨hpos, hlt⟩ := magnitude_pos_lt h hm
    cases s
    · exact (abs_neg _).trans_lt ((abs_of_pos hpos).trans_lt hlt)
    · exact (abs_of_pos hpos).trans_lt hlt

theorem compare_neg_neg (a b : Int) : compare (-a) (-b) = (compare a b).swap := by
  rcases lt_trichotomy a b with h | rfl | h
  · rw [compare_lt_iff_lt.2 h]
    exact compare_gt_iff_gt.2 (neg_lt_neg h)
  · rw [compare_eq_iff_eq.2 (rfl : a = a)]
    exact compare_eq_iff_eq.2 rfl
  · rw [compare_gt_iff_gt.2 h]
    exact compare_lt_iff_lt.2 (neg_lt_neg h)

theorem compare_unpacked {a b : UnpackedFloat} (ha : (Binary.ofUnpacked a).Canonical)
    (hb : (Binary.ofUnpacked b).Canonical) (hna : a ≠ .notANumber) (hnb : b ≠ .notANumber) :
    a.compare b = some (compare (Binary.ofUnpacked a).rank (Binary.ofUnpacked b).rank) := by
  have hlt {x y : Int} (h : x < y) : some Ordering.lt = some (compare x y) :=
    congrArg some (compare_lt_iff_lt.2 h).symm
  have hgt {x y : Int} (h : y < x) : some Ordering.gt = some (compare x y) :=
    congrArg some (compare_gt_iff_gt.2 h).symm
  -- the cases are those of the comparison: infinities first, then zeros, then signs
  fun_cases UnpackedFloat.compare a b with
  | case1 => exact absurd rfl hna
  | case2 => exact absurd rfl hnb
  | case3 s t => cases s <;> cases t <;> rfl
  | case4 _ _ h => exact hgt (abs_lt.1 (abs_rank_lt hb h)).2
  | case5 _ _ h => exact hlt (abs_lt.1 (abs_rank_lt hb h)).1
  | case6 _ _ h => exact hlt (abs_lt.1 (abs_rank_lt ha h)).2
  | case7 _ _ h => exact hgt (abs_lt.1 (abs_rank_lt ha h)).1
  | case8 m e hm t =>
    have hpos := (magnitude_pos_lt ha hm).1
    cases t <;> exact hgt hpos
  | case9 m e hm t =>
    have hpos := (magnitude_pos_lt ha hm).1
    cases t <;> exact hlt (neg_lt_zero.2 hpos)
  | case10 s m e hm =>
    have hpos := (magnitude_pos_lt hb hm).1
    cases s <;> exact hlt hpos
  | case11 s m e hm =>
    have hpos := (magnitude_pos_lt hb hm).1
    cases s <;> exact hgt (neg_lt_zero.2 hpos)
  | case12 s t => cases s <;> cases t <;> rfl
  | case13 m e hm m' e' hm' =>
    rw [← compare_magnitude ha hb]
    exact congrArg some (compare_neg_neg _ _).symm
  | case14 m e hm m' e' hm' =>
    have hneg := neg_lt_zero.2 (magnitude_pos_lt ha hm).1
    exact hlt (hneg.trans (magnitude_pos_lt hb hm').1)
  | case15 m e hm m' e' hm' =>
    have hneg := neg_lt_zero.2 (magnitude_pos_lt hb hm').1
    exact hgt (hneg.trans (magnitude_pos_lt ha hm).1)
  | case16 m e hm m' e' hm' => exact congrArg some (compare_magnitude ha hb).symm

/-- Numbers are compared by their ranks. -/
theorem compare_eq_rank {x y : Float} (hx : x.isNaN = false) (hy : y.isNaN = false) :
    x.toModel.unpack.compare y.toModel.unpack =
      some (compare (decode x).rank (decode y).rank) := by
  have hunpacked {x : Float} (hx : x.isNaN = false) : x.toModel.unpack ≠ .notANumber := by
    intro h
    rw [show x.isNaN = x.toModel.unpack.isNaN from rfl, h] at hx
    cases hx
  have hx' := canonical_decode x
  have hy' := canonical_decode y
  rw [decode_eq_ofUnpacked] at hx' hy' ⊢
  rw [decode_eq_ofUnpacked]
  exact compare_unpacked hx' hy' (hunpacked hx) (hunpacked hy)

theorem le_iff_rank_le {x y : Float} (hx : x.isNaN = false) (hy : y.isNaN = false) :
    x ≤ y ↔ (decode x).rank ≤ (decode y).rank := by
  have hle : x ≤ y ↔ x.toModel.unpack.le y.toModel.unpack = true := decide_eq_true_iff
  rw [hle, UnpackedFloat.le, compare_eq_rank hx hy, Option.any_some, Std.isLE_compare]

theorem isNaN_of_le {x y : Float} (h : x ≤ y) : x.isNaN = false ∧ y.isNaN = false := by
  have hle : x.toModel.unpack.le y.toModel.unpack = true := decide_eq_true_iff.1 h
  change x.toModel.unpack.isNaN = false ∧ y.toModel.unpack.isNaN = false
  revert hle
  generalize x.toModel.unpack = a, y.toModel.unpack = b
  intro hle
  cases a with
  | notANumber => cases hle
  | _ => cases b <;> first | exact ⟨rfl, rfl⟩ | cases hle

theorem lt_iff_rank_lt {x y : Float} (hx : x.isNaN = false) (hy : y.isNaN = false) :
    x < y ↔ (decode x).rank < (decode y).rank := by
  have hlt : x < y ↔ x.toModel.unpack.lt y.toModel.unpack = true := decide_eq_true_iff
  rw [hlt, UnpackedFloat.lt, compare_eq_rank hx hy, beq_iff_eq, Option.some_inj, compare_lt_iff_lt]

theorem beq_iff_rank_eq {x y : Float} (hx : x.isNaN = false) (hy : y.isNaN = false) :
    (x == y) = true ↔ (decode x).rank = (decode y).rank := by
  change x.toModel.unpack.beq y.toModel.unpack = true ↔ _
  rw [UnpackedFloat.beq, compare_eq_rank hx hy, beq_iff_eq, Option.some_inj, compare_eq_iff_eq]

protected theorem le_of_lt {x y : Float} (h : x < y) : x ≤ y := by
  have hlt : x.toModel.unpack.lt y.toModel.unpack = true := decide_eq_true_iff.1 h
  rw [UnpackedFloat.lt, beq_iff_eq] at hlt
  have hle : x.toModel.unpack.le y.toModel.unpack = true := by
    rw [UnpackedFloat.le, hlt]
    rfl
  exact decide_eq_true_iff.2 hle

protected theorem le_trans {x y z : Float} (hxy : x ≤ y) (hyz : y ≤ z) : x ≤ z := by
  obtain ⟨hx, hy⟩ := isNaN_of_le hxy
  have hz := (isNaN_of_le hyz).2
  rw [le_iff_rank_le hx hy] at hxy
  rw [le_iff_rank_le hy hz] at hyz
  exact (le_iff_rank_le hx hz).2 (hxy.trans hyz)

theorem lt_iff_not_le {x y : Float} (hx : x.isNaN = false) (hy : y.isNaN = false) :
    x < y ↔ ¬y ≤ x := by
  rw [lt_iff_rank_lt hx hy, le_iff_rank_le hy hx, not_le]

/-! ## Comparisons by value -/

namespace Binary

variable {s s' : Bool} {m m' : Nat} {e e' : Int}

theorem magnitude_nonneg (h : (finite s m e).Canonical) : 0 ≤ (finite s m e).magnitude := by
  obtain ⟨hlow, -⟩ := h
  simp only [magnitude, leadingBit]
  omega

theorem scaled_pos (h : (finite s m e).Canonical) (hpos : 0 < (finite s m e).magnitude) :
    (0 : ℚ) < m * 2 ^ e := by
  obtain ⟨-, -, -, hnormal⟩ := h
  have hm : 0 < m := by
    simp only [magnitude, leadingBit] at *
    omega
  positivity

theorem scaled_lt_scaled (h : (finite s m e).Canonical) (h' : (finite s' m' e').Canonical)
    (hlt : (finite s m e).magnitude < (finite s' m' e').magnitude) :
    (m : ℚ) * 2 ^ e < m' * 2 ^ e' := by
  obtain ⟨hlow, -, hm, hnormal⟩ := h
  obtain ⟨hlow', -, hm', hnormal'⟩ := h'
  simp only [magnitude] at hlt
  rcases lt_trichotomy e e' with he | rfl | he
  · have hleading : leadingBit ≤ m' := hnormal'.resolve_right (by omega)
    have hstep : e + 1 ≤ e' := he
    calc (m : ℚ) * 2 ^ e < (2 * leadingBit : ℕ) * 2 ^ e := by gcongr
      _ = leadingBit * 2 ^ (e + 1) := by rw [zpow_add_one₀ two_ne_zero]; push_cast; ring
      _ ≤ m' * 2 ^ e' := by gcongr; norm_num
  · have hmm : m < m' := by omega
    gcongr
  · simp only [leadingBit] at *
    omega

theorem eq_of_magnitude_eq (h : (finite s m e).Canonical) (h' : (finite s' m' e').Canonical)
    (heq : (finite s m e).magnitude = (finite s' m' e').magnitude) : m = m' ∧ e = e' := by
  obtain ⟨hlow, -, hm, hnormal⟩ := h
  obtain ⟨hlow', -, hm', hnormal'⟩ := h'
  simp only [magnitude, leadingBit] at *
  omega

theorem value_of_magnitude_eq_zero (h : (finite s m e).Canonical)
    (hzero : (finite s m e).magnitude = 0) : (finite s m e).value = 0 := by
  obtain ⟨hlow, -⟩ := h
  have hm : m = 0 := by
    simp only [magnitude, leadingBit] at hzero
    omega
  subst hm
  cases s <;> simp [value]

theorem value_lt_value (h : (finite s m e).Canonical) (h' : (finite s' m' e').Canonical)
    (hlt : (finite s m e).rank < (finite s' m' e').rank) :
    (finite s m e).value < (finite s' m' e').value := by
  have hnonneg := magnitude_nonneg h
  have hnonneg' := magnitude_nonneg h'
  cases s with
  | false =>
    cases s' with
    | false => exact scaled_lt_scaled h h' hlt
    | true => exact absurd (hlt.trans_le (neg_nonpos.2 hnonneg')) hnonneg.not_gt
  | true =>
    cases s' with
    | true => exact neg_lt_neg (scaled_lt_scaled h' h (neg_lt_neg_iff.1 hlt))
    | false =>
      change -((m : ℚ) * 2 ^ e) < m' * 2 ^ e'
      -- they are not both zero
      rcases hnonneg'.lt_or_eq with hpos | hzero
      · have hle : (0 : ℚ) ≤ m * 2 ^ e := by positivity
        exact (neg_nonpos.2 hle).trans_lt (scaled_pos h' hpos)
      · have hpos : 0 < (finite true m e).magnitude := neg_lt_zero.1 (hlt.trans_eq hzero.symm)
        have hle' : (0 : ℚ) ≤ m' * 2 ^ e' := by positivity
        exact (neg_lt_zero.2 (scaled_pos h hpos)).trans_le hle'

theorem value_eq_value (h : (finite s m e).Canonical) (h' : (finite s' m' e').Canonical)
    (heq : (finite s m e).rank = (finite s' m' e').rank) :
    (finite s m e).value = (finite s' m' e').value := by
  have hnonneg := magnitude_nonneg h
  have hnonneg' := magnitude_nonneg h'
  by_cases hsign : s = s'
  · subst hsign
    have hmagnitude : (finite s m e).magnitude = (finite s m' e').magnitude := by
      cases s
      · exact heq
      · exact neg_inj.1 heq
    obtain ⟨rfl, rfl⟩ := eq_of_magnitude_eq h h' hmagnitude
    rfl
  · -- of opposite signs are only the two zeros
    have hzero : (finite s m e).magnitude = 0 ∧ (finite s' m' e').magnitude = 0 := by
      cases s <;> cases s' <;> simp [rank] at heq hsign <;> omega
    rw [value_of_magnitude_eq_zero h hzero.1, value_of_magnitude_eq_zero h' hzero.2]

end Binary

/-- The exact value of a finite number. -/
def exactValue (x : Float) : ℚ := (decode x).value

/-- The exact values of finite numbers are in the order of their ranks. -/
theorem compare_exactValue {x y : Float} (hx : x.isFinite = true) (hy : y.isFinite = true) :
    compare (exactValue x) (exactValue y) = compare (decode x).rank (decode y).rank := by
  obtain ⟨s, m, e, hdecode⟩ := (isFinite_iff x).1 hx
  obtain ⟨s', m', e', hdecode'⟩ := (isFinite_iff y).1 hy
  have h := canonical_decode x
  have h' := canonical_decode y
  unfold exactValue
  rw [hdecode] at h ⊢
  rw [hdecode'] at h' ⊢
  rcases lt_trichotomy (Binary.finite s m e).rank (Binary.finite s' m' e').rank with hr | hr | hr
  · rw [compare_lt_iff_lt.2 hr]
    exact compare_lt_iff_lt.2 (Binary.value_lt_value h h' hr)
  · rw [compare_eq_iff_eq.2 hr]
    exact compare_eq_iff_eq.2 (Binary.value_eq_value h h' hr)
  · rw [compare_gt_iff_gt.2 hr]
    exact compare_gt_iff_gt.2 (Binary.value_lt_value h' h hr)

theorem le_iff_exactValue_le {x y : Float} (hx : x.isFinite = true) (hy : y.isFinite = true) :
    x ≤ y ↔ exactValue x ≤ exactValue y := by
  rw [le_iff_rank_le (isNaN_of_isFinite hx) (isNaN_of_isFinite hy), ← compare_le_iff_le,
    ← compare_exactValue hx hy, compare_le_iff_le]

theorem lt_iff_exactValue_lt {x y : Float} (hx : x.isFinite = true) (hy : y.isFinite = true) :
    x < y ↔ exactValue x < exactValue y := by
  rw [lt_iff_not_le (isNaN_of_isFinite hx) (isNaN_of_isFinite hy), le_iff_exactValue_le hy hx,
    not_le]

/-! ## Differences -/

theorem isNaN_unpack_pack {a : UnpackedFloat} (h : a ≠ .notANumber) :
    (UnpackedFloat.unpack Format.binary64 (a.pack Format.binary64)).isNaN = false := by
  have hmantissa : unpackExponent (a.pack Format.binary64) = -1#11 →
      unpackMantissa (a.pack Format.binary64) = 0#52 := by
    fun_cases UnpackedFloat.pack Format.binary64 a with
    | case1 => exact absurd rfl h
    | case2 s => simp [UnpackedFloat.packedInfinity]
    | case3 s => simp [UnpackedFloat.packedZero]
    | case4 s m e => simp [UnpackedFloat.packedInfinity]
    | case5 s m e hm bits biased hbiased hbits =>
      rw [UnpackedFloat.unpackExponent_packComponents]
      intro hlast
      have htoNat := congrArg BitVec.toNat hlast
      rw [BitVec.toNat_ofNat] at htoNat
      change biased % 2048 = 2047 at htoNat
      change ¬2048 ≤ biased + 1 at hbiased
      omega
    | case6 s m e hm bits biased hbiased hbits =>
      rw [UnpackedFloat.unpackExponent_packComponents]
      exact fun h => absurd h (by decide)
  unfold UnpackedFloat.unpack
  by_cases hlast : unpackExponent (a.pack Format.binary64) = -1#11
  · rw [if_pos hlast, if_pos (hmantissa hlast)]
    rfl
  · rw [if_neg hlast]
    split
    · split <;> rfl
    · rfl

theorem normalize_ne_notANumber (spec : Format) (m e : Int) (s : Sign) :
    UnpackedFloat.normalize spec m e s ≠ .notANumber := by
  have hround (s : Sign) (m : Nat) : UnpackedFloat.round spec s m e ≠ .notANumber := by
    simp only [UnpackedFloat.round, UnpackedFloat.roundWithAccuracy]
    split
    · exact UnpackedFloat.noConfusion
    · exact UnpackedFloat.noConfusion
  unfold UnpackedFloat.normalize
  split
  · exact hround _ _
  · exact UnpackedFloat.noConfusion
  · exact hround _ _

theorem isNaN_sub {x y : Float} (hx : x.isFinite = true) (hy : y.isFinite = true) :
    (x - y).isNaN = false := by
  have hsub : UnpackedFloat.sub Format.binary64 x.toModel.unpack y.toModel.unpack ≠
      .notANumber := by
    change x.toModel.unpack.isFinite = true at hx
    change y.toModel.unpack.isFinite = true at hy
    revert hx hy
    generalize x.toModel.unpack = a, y.toModel.unpack = b
    intro hx hy
    cases a with
    | notANumber => cases hx
    | infinity s => cases hx
    | zero s =>
      cases b with
      | notANumber => cases hy
      | infinity t => cases hy
      | zero t =>
        change (if s == -t then UnpackedFloat.zero s else .zero .positive) ≠ .notANumber
        split <;> exact UnpackedFloat.noConfusion
      | finite t m e h => exact UnpackedFloat.noConfusion
    | finite s m e h =>
      cases b with
      | notANumber => cases hy
      | infinity t => cases hy
      | zero t => exact UnpackedFloat.noConfusion
      | finite t m' e' h' => exact normalize_ne_notANumber _ _ _ _
  exact isNaN_unpack_pack hsub

/-- What was unpacked is a number below zero, a zero, or no number. -/
def NotPositive : UnpackedFloat → Prop
  | .finite s .. => s = .negative
  | .infinity s => s = .negative
  | _ => True

theorem rank_nonpos_of_notPositive {a : UnpackedFloat} (h : (Binary.ofUnpacked a).Canonical)
    (ha : NotPositive a) : (Binary.ofUnpacked a).rank ≤ 0 := by
  cases a with
  | notANumber => exact le_rfl
  | infinity s =>
    obtain rfl : s = .negative := ha
    decide
  | zero s => cases s <;> decide
  | finite s m e hm =>
    obtain rfl : s = .negative := ha
    exact neg_nonpos.2 (Binary.magnitude_nonneg h)

theorem notPositive_unpack {bits : BitVec 64}
    (h : Sign.ofBitVec (@unpackSign Format.binary64 bits) = .negative) :
    NotPositive (UnpackedFloat.unpack Format.binary64 bits) := by
  unfold UnpackedFloat.unpack
  dsimp only
  split
  · split
    · exact h
    · trivial
  · split
    · split
      · trivial
      · exact h
    · exact h

theorem notPositive_unpack_pack {a : UnpackedFloat} (ha : NotPositive a) :
    NotPositive (UnpackedFloat.unpack Format.binary64 (a.pack Format.binary64)) := by
  cases a with
  | notANumber => trivial
  | infinity s =>
    obtain rfl : s = .negative := ha
    refine notPositive_unpack ?_
    unfold UnpackedFloat.pack UnpackedFloat.packedInfinity
    rw [UnpackedFloat.unpackSign_packComponents, Sign.ofBitVec_toBitVec]
  | zero s => cases s <;> trivial
  | finite s m e hm =>
    obtain rfl : s = .negative := ha
    refine notPositive_unpack ?_
    unfold UnpackedFloat.pack UnpackedFloat.packedInfinity
    dsimp only
    split_ifs <;> rw [UnpackedFloat.unpackSign_packComponents, Sign.ofBitVec_toBitVec]

theorem notPositive_normalize (spec : Format) {m : Int} (h : m ≤ 0) (e : Int) (s : Sign) :
    NotPositive (UnpackedFloat.normalize spec m e s) := by
  unfold UnpackedFloat.normalize
  split
  · simp only [UnpackedFloat.round, UnpackedFloat.roundWithAccuracy]
    split
    · trivial
    · rfl
  · trivial
  · rename_i hgt
    exact absurd (compare_gt_iff_gt.1 hgt) h.not_gt

theorem value_eq_apply (s : Sign) (m : Nat) {e least : Int} (h : least ≤ e) :
    (Binary.finite (s == .negative) m e).value =
      (s.apply (UnpackedFloat.decreaseExponent m e least).1 : ℤ) * (2 : ℚ) ^ least := by
  have hshift : (m <<< (e - least).toNat : ℕ) * (2 : ℚ) ^ least = m * 2 ^ e := by
    obtain ⟨n, hn⟩ := Int.eq_ofNat_of_zero_le (sub_nonneg.2 h)
    have he : e = n + least := by omega
    rw [hn, Int.toNat_natCast, Nat.shiftLeft_eq, he, zpow_add₀ two_ne_zero]
    push_cast
    rw [zpow_natCast]
    ring
  cases s with
  | positive => exact hshift.symm
  | negative =>
    change -((m : ℚ) * 2 ^ e) = ((-((m <<< (e - least).toNat : ℕ) : ℤ) : ℤ) : ℚ) * 2 ^ least
    rw [Int.cast_neg, Int.cast_natCast, neg_mul, hshift]

theorem value_zero (s : Sign) : (Binary.ofUnpacked (.zero s)).value = 0 := by
  cases s <;> simp [Binary.ofUnpacked, Binary.value]

theorem notPositive_sub {a b : UnpackedFloat} (ha : a.isFinite = true) (hb : b.isFinite = true)
    (h : (Binary.ofUnpacked a).value ≤ (Binary.ofUnpacked b).value) :
    NotPositive (UnpackedFloat.sub Format.binary64 a b) := by
  have hsign {s : Sign} {m : Nat} {e : Int} (hm : 0 < m)
      (hle : (Binary.finite (s == .negative) m e).value ≤ 0) : s = .negative := by
    cases s with
    | negative => rfl
    | positive =>
      have hpos : (0 : ℚ) < m * 2 ^ e := by positivity
      exact absurd hle hpos.not_ge
  cases a with
  | notANumber => cases ha
  | infinity s => cases ha
  | zero s =>
    cases b with
    | notANumber => cases hb
    | infinity t => cases hb
    | zero t =>
      change NotPositive (if s == -t then .zero s else .zero .positive)
      split <;> trivial
    | finite t m e hm =>
      rw [value_zero] at h
      cases t with
      | positive => rfl
      | negative =>
        have hpos : (0 : ℚ) < m * 2 ^ e := by positivity
        exact absurd h (neg_lt_zero.2 hpos).not_ge
  | finite s m e hm =>
    cases b with
    | notANumber => cases hb
    | infinity t => cases hb
    | zero t =>
      rw [value_zero] at h
      exact hsign hm h
    | finite t m' e' hm' =>
      refine notPositive_normalize _ ?_ _ _
      change (Binary.finite (s == .negative) m e).value ≤
        (Binary.finite (t == .negative) m' e').value at h
      rw [value_eq_apply s m (min_le_left e e'), value_eq_apply t m' (min_le_right e e')] at h
      have hpos : (0 : ℚ) < 2 ^ min e e' := by positivity
      exact sub_nonpos.2 (Int.cast_le.1 (le_of_mul_le_mul_right h hpos))

/-- The difference of finite numbers is not above zero if the first one is not above the other. -/
theorem not_pos_sub {x y : Float} (hx : x.isFinite = true) (hy : y.isFinite = true) (h : x ≤ y) :
    ¬0 < x - y := by
  have hnan := isNaN_sub hx hy
  have hvalue := (le_iff_exactValue_le hx hy).1 h
  unfold exactValue at hvalue
  rw [decode_eq_ofUnpacked, decode_eq_ofUnpacked] at hvalue
  have hcanonical := canonical_decode (x - y)
  rw [lt_iff_rank_lt (by decide) hnan, decode_eq_ofUnpacked (x - y), not_lt]
  rw [decode_eq_ofUnpacked] at hcanonical
  exact rank_nonpos_of_notPositive hcanonical
    (notPositive_unpack_pack (notPositive_sub hx hy hvalue))

end Telemetry.Decimal
