import Mathlib.Algebra.Group.Action.Defs
import Mathlib.Algebra.Order.BigOperators.Group.List
import Mathlib.Algebra.Order.Ring.Nat
import Mathlib.Data.List.MinMax
import Telemetry.Time.Span

/-!
# Spans in words

A word holds every span of less than `2 ^ 64` nanoseconds. Longer ones are cut off at the largest
word, and a sum of spans is cut off at the longest span.

## Main definitions

- `Span.capped` — the nanoseconds of a span, or the largest word
- `Span.sumCapped`, `Span.maxCapped` — the sum and the longest of such spans

## Main statements

- `Span.maxCapped_le_sumCapped`, `Span.sumCapped_le_mul` — how they compare
- `Span.nanos_foldl_add` — the sum of spans that are added one by one
-/

namespace Telemetry.Span

theorem eq_of_nanos_eq {s t : Span} (h : s.nanos = t.nanos) : s = t := by
  obtain ⟨n, hn⟩ := s
  obtain ⟨m, hm⟩ := t
  cases h
  rfl

/-- The nanoseconds of a span, or the largest word if it is longer. -/
def capped (span : Span) : Nat := min span.nanos (UInt64.size - 1)

/-- The sum of some spans, each cut off at the largest word. -/
def sumCapped (spans : List Span) : Nat := (spans.map capped).sum

/-- The longest of some spans, each cut off at the largest word; zero if there are none. -/
def maxCapped (spans : List Span) : Nat := (spans.map capped).foldr max 0

theorem toNat_nanosWord (span : Span) : span.nanosWord.toNat = span.capped := by
  have hsize : 0 < UInt64.size := by decide
  exact UInt64.toNat_ofNat_of_lt' (by omega)

theorem nanos_ofWord (n : UInt64) : (ofWord n).nanos = n.toNat := by
  have hlt := n.toNat_lt_size
  have hle : UInt64.size ≤ longestNanos := by decide
  exact min_eq_left (by omega)

theorem toNat_nanosWord_of_lt {span : Span} (h : span.nanos < UInt64.size) :
    span.nanosWord.toNat = span.nanos := by
  rw [toNat_nanosWord, capped, min_eq_left (Nat.le_sub_one_of_lt h)]

theorem maxCapped_le_iff {spans : List Span} {n : Nat} :
    maxCapped spans ≤ n ↔ ∀ span ∈ spans, span.capped ≤ n := by
  constructor
  · intro h span hspan
    exact (List.le_max_of_le (List.mem_map_of_mem hspan) le_rfl).trans h
  · intro h
    refine List.max_le_of_forall_le _ _ fun m hm => ?_
    obtain ⟨span, hspan, rfl⟩ := List.mem_map.1 hm
    exact h span hspan

theorem maxCapped_le_sumCapped (spans : List Span) : maxCapped spans ≤ sumCapped spans :=
  maxCapped_le_iff.2 fun _ hspan =>
    List.single_le_sum (fun _ _ => Nat.zero_le _) _ (List.mem_map_of_mem hspan)

theorem sumCapped_le_mul (spans : List Span) :
    sumCapped spans ≤ spans.length * maxCapped spans := by
  have hsum := List.sum_le_card_nsmul (spans.map capped) (maxCapped spans)
    fun n hn => List.le_max_of_le hn le_rfl
  rwa [List.length_map, smul_eq_mul] at hsum

/-- Spans that are added one by one are cut off at the longest span, as their sum is. -/
theorem nanos_foldl_add {α : Type} (span : α → Span) (list : List α) (start : Span) :
    (list.foldl (fun sum a => sum.add (span a)) start).nanos =
      min (start.nanos + (list.map fun a => (span a).nanos).sum) longestNanos := by
  induction list generalizing start with
  | nil => exact (Nat.min_eq_left start.le_longest).symm
  | cons a rest ih =>
    rw [List.foldl_cons, ih, List.map_cons, List.sum_cons]
    change min (min (start.nanos + (span a).nanos) longestNanos + _) longestNanos = _
    omega

end Telemetry.Span
