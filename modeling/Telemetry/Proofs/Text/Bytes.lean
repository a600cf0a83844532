import Mathlib.Tactic.SplitIfs

/-!
# Texts by their bytes

A text is stored as bytes, one to four for each of its characters. The first byte of a character
tells how many there are, more of them for larger code points, and the digits of the code point
follow, the most significant first. So texts are in the order of their characters exactly if they
are in the order of their bytes.

## Main definitions

- `Text.bytes` — the bytes of a text

## Main statements

- `Text.bytes_lt_iff` — the order of bytes is the order of characters
-/

namespace Telemetry.Text

/-- The bytes of a text. -/
def bytes (s : String) : List UInt8 := s.toByteArray.data.toList

theorem bytes_eq_flatMap (s : String) : bytes s = s.toList.flatMap String.utf8EncodeChar := by
  have hlist (cs : List Char) : bytes (String.ofList cs) = cs.flatMap String.utf8EncodeChar :=
    List.toList_data_toByteArray
  rw [← hlist, String.ofList_toList]

/-- The bytes of a character decide, whatever follows them. -/
theorem utf8EncodeChar_append_lt {c d : Char} (h : c < d) (r s : List UInt8) :
    String.utf8EncodeChar c ++ r < String.utf8EncodeChar d ++ s := by
  have hlt : c.val.toNat < d.val.toNat := h
  have hmax : d.val.toNat < 1114112 := by
    rcases d.valid with hd | ⟨-, hd⟩
    · exact Nat.lt_trans hd (by decide)
    · exact hd
  simp only [String.utf8EncodeChar]
  generalize c.val.toNat = m at hlt
  generalize d.val.toNat = n at hlt hmax ⊢
  by_cases hshort : m ≤ 65535
  · split_ifs
    all_goals
      simp only [List.cons_append, List.nil_append, List.cons_lt_cons_iff, UInt8.lt_iff_toNat_lt,
        ← UInt8.toNat_inj, UInt8.toNat_ofNat']
      omega
  · -- both have four bytes: the first digit in which the numbers differ decides
    have hdigits : m / 262144 < n / 262144 ∨ m / 262144 = n / 262144 ∧
        (m / 4096 < n / 4096 ∨ m / 4096 = n / 4096 ∧
          (m / 64 < n / 64 ∨ m / 64 = n / 64 ∧ m % 64 < n % 64)) := by
      omega
    have hn {k : Nat} (h : k ≤ 65535) : ¬n ≤ k := by omega
    have hm {k : Nat} (h : k ≤ 65535) : ¬m ≤ k := by omega
    simp (disch := decide) only [hm, hn, if_false, List.cons_append, List.nil_append,
      List.cons_lt_cons_iff, UInt8.lt_iff_toNat_lt, ← UInt8.toNat_inj, UInt8.toNat_ofNat']
    obtain h1 | ⟨h1, h2 | ⟨h2, h3 | ⟨h3, h4⟩⟩⟩ := hdigits
    · exact .inl (by omega)
    · rw [h1]
      exact .inr ⟨rfl, .inl (by omega)⟩
    · rw [h1, h2]
      exact .inr ⟨rfl, .inr ⟨rfl, .inl (by omega)⟩⟩
    · rw [h1, h2, h3]
      exact .inr ⟨rfl, .inr ⟨rfl, .inr ⟨rfl, .inl (by omega)⟩⟩⟩

theorem flatMap_utf8EncodeChar_lt {s t : List Char} (h : s < t) :
    s.flatMap String.utf8EncodeChar < t.flatMap String.utf8EncodeChar := by
  induction s generalizing t with
  | nil =>
    cases t with
    | nil => exact absurd h (List.lt_irrefl [])
    | cons d more =>
      obtain ⟨byte, bytes, hbytes⟩ :=
        List.exists_cons_of_ne_nil (String.utf8EncodeChar_ne_nil (c := d))
      rw [List.flatMap_cons, hbytes]
      exact List.nil_lt_cons byte _
  | cons c rest ih =>
    cases t with
    | nil => exact absurd h (List.not_lt_nil _)
    | cons d more =>
      rw [List.flatMap_cons, List.flatMap_cons]
      rcases List.cons_lt_cons_iff.1 h with hlt | ⟨rfl, hrest⟩
      · exact utf8EncodeChar_append_lt hlt _ _
      · exact List.append_left_lt (ih hrest)

/-- The order of bytes is the order of characters. -/
theorem bytes_lt_iff {s t : String} : bytes s < bytes t ↔ s < t := by
  have hforward {s t : String} (h : s < t) : bytes s < bytes t := by
    rw [bytes_eq_flatMap, bytes_eq_flatMap]
    exact flatMap_utf8EncodeChar_lt h
  refine ⟨fun h => Decidable.byContradiction fun hlt => ?_, hforward⟩
  by_cases hgt : t < s
  · exact List.lt_irrefl _ (List.lt_trans h (hforward hgt))
  · have heq : s = t := String.le_antisymm (String.not_lt.1 hgt) (String.not_lt.1 hlt)
    exact List.lt_irrefl _ (heq ▸ h)

end Telemetry.Text
