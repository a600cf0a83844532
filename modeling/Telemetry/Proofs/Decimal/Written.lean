import Telemetry.Decimal.Notation

/-!
# The alphabet of written numbers

Whatever is done with the text of a number, it holds digits, a sign, a point and the letters of the
three numbers that are not finite, and nothing else.

## Main statements

* `numeric_characters_plain`: the text of a number on a protocol line.
-/

namespace Telemetry.Decimal

/-- A digit, or another character of a written number. -/
def isNumeric (c : Char) : Bool :=
  c.isDigit || c ∈ ['-', '.', 'N', 'a', 'i', 'n', 'f']

/-- A text of such characters alone. -/
def Numeric (s : List Char) : Prop := s.all isNumeric = true

instance : DecidablePred Numeric := fun s => inferInstanceAs (Decidable (s.all isNumeric = true))

theorem numeric_iff {s : List Char} : Numeric s ↔ ∀ c ∈ s, isNumeric c = true := List.all_eq_true

theorem Numeric.append {s t : List Char} (hs : Numeric s) (ht : Numeric t) : Numeric (s ++ t) := by
  rw [Numeric, List.all_append, Bool.and_eq_true]
  exact ⟨hs, ht⟩

theorem Numeric.of_subset {s t : List Char} (ht : Numeric t) (h : s ⊆ t) : Numeric s := by
  rw [numeric_iff] at ht ⊢
  intro c hc
  exact ht c (h hc)

theorem numeric_replicate_zero (n : Nat) : Numeric (List.replicate n '0') := by
  rw [numeric_iff]
  intro c hc
  rw [List.eq_of_mem_replicate hc]
  decide

theorem numeric_toDigits (n : Nat) : Numeric (Nat.toDigits 10 n) := by
  rw [numeric_iff]
  intro c hc
  have hdigit : c.isDigit = true := Nat.isDigit_of_mem_toDigits (by decide) (by decide) hc
  rw [isNumeric, hdigit, Bool.true_or]

theorem Numeric.placePoint {digits : List Char} (h : Numeric digits) (point : Int) :
    Numeric (Decimal.placePoint false digits point) := by
  unfold Decimal.placePoint
  split
  · have hfront : Numeric ['0', '.'] := by decide
    exact (hfront.append (numeric_replicate_zero _)).append h
  · split
    · rw [if_neg (by decide), List.append_nil]
      exact h.append (numeric_replicate_zero _)
    · have hpoint : Numeric ['.'] := by decide
      have hwhole : Numeric (digits.take point.toNat) := h.of_subset (List.take_subset _ _)
      have hfraction : Numeric (digits.drop point.toNat) := h.of_subset (List.drop_subset _ _)
      exact (hwhole.append hpoint).append hfraction

theorem numeric_characters_plain (x : Float) : Numeric (plain.characters x) := by
  have hsign (negative : Bool) : Numeric (if negative then ['-'] else []) := by
    cases negative <;> decide
  unfold Style.characters
  split
  · decide
  · exact (hsign _).append (by decide)
  · refine (hsign _).append ?_
    split
    · exact (numeric_toDigits 0).placePoint 1
    · exact (numeric_toDigits _).placePoint _

end Telemetry.Decimal
