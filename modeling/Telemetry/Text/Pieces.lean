/-!
# Cutting and joining text

A text cut at a separator falls into pieces, of which there is always one more than there are
separators. Joining the pieces with the separator gives the text back, and pieces that hold no
separator are found again by cutting.

## Main statements

* `join_cut`: joining undoes cutting.
* `cut_join`: cutting undoes joining pieces without separators.
* `cut_join_flatMap`: joined texts are cut as each of them is.
-/

namespace Telemetry.Text

/-- The pieces of a text between the occurrences of a separator. -/
def cut (separator : Char) : List Char → List (List Char)
  | [] => [[]]
  | c :: rest =>
    if c = separator then [] :: cut separator rest
    else match cut separator rest with
      | [] => [[c]]
      | piece :: pieces => (c :: piece) :: pieces

/-- Pieces in a row with a separator between any two of them. -/
def join (separator : List Char) : List (List Char) → List Char
  | [] => []
  | [piece] => piece
  | piece :: pieces => piece ++ separator ++ join separator pieces

/-- There is always at least one piece. -/
theorem cut_ne_nil (separator : Char) (s : List Char) : cut separator s ≠ [] := by
  cases s with
  | nil => simp [cut]
  | cons c rest =>
    simp only [cut]
    split
    · simp
    · split <;> simp

/-- Joining two or more pieces starts with the first one and a separator. -/
theorem join_cons (separator piece : List Char) {pieces : List (List Char)} (h : pieces ≠ []) :
    join separator (piece :: pieces) = piece ++ separator ++ join separator pieces := by
  cases pieces with
  | nil => exact absurd rfl h
  | cons _ _ => rfl

theorem toList_intercalate (separator : String) (texts : List String) :
    (separator.intercalate texts).toList = join separator.toList (texts.map String.toList) := by
  induction texts with
  | nil => rfl
  | cons text rest ih =>
    cases rest with
    | nil => simp [join, String.intercalate_singleton]
    | cons next more =>
      rw [String.intercalate_cons_cons, String.toList_append, String.toList_append, ih]
      rfl

/-- Joining the pieces of a text gives the text back. -/
theorem join_cut (separator : Char) (s : List Char) :
    join [separator] (cut separator s) = s := by
  induction s with
  | nil => rfl
  | cons c rest ih =>
    simp only [cut]
    split
    · next h => rw [join_cons _ _ (cut_ne_nil separator rest), ih, h]; rfl
    · split
      · next h => exact absurd h (cut_ne_nil separator rest)
      · next piece pieces h =>
        rw [h] at ih
        cases pieces with
        | nil => simpa [join] using ih
        | cons p ps => simpa [join] using ih

/-- A text without separators is a single piece. -/
theorem cut_of_not_mem {separator : Char} {s : List Char} (h : separator ∉ s) :
    cut separator s = [s] := by
  induction s with
  | nil => rfl
  | cons c rest ih =>
    obtain ⟨hc, hrest⟩ := List.ne_and_not_mem_of_not_mem_cons h
    simp [cut, ih hrest, hc.symm]

/-- A text with a separator in it is cut as the two texts around it are. -/
theorem cut_append_separator (separator : Char) (s rest : List Char) :
    cut separator (s ++ separator :: rest) = cut separator s ++ cut separator rest := by
  induction s with
  | nil => simp [cut]
  | cons c s ih =>
    by_cases hc : c = separator
    · simp [cut, hc, ih]
    · have hne := cut_ne_nil separator s
      cases hcut : cut separator s with
      | nil => exact absurd hcut hne
      | cons piece pieces => simp [cut, hc, ih, hcut]

/-- A piece without separators, followed by a separator, is the first piece. -/
theorem cut_append {separator : Char} {s : List Char} (h : separator ∉ s) (rest : List Char) :
    cut separator (s ++ separator :: rest) = s :: cut separator rest := by
  rw [cut_append_separator, cut_of_not_mem h, List.singleton_append]

/-- Joined texts are cut as each of them is. -/
theorem cut_join_flatMap {separator : Char} {texts : List (List Char)} (hne : texts ≠ []) :
    cut separator (join [separator] texts) = texts.flatMap (cut separator) := by
  induction texts with
  | nil => exact absurd rfl hne
  | cons text texts ih =>
    cases texts with
    | nil => simp [join]
    | cons t ts =>
      rw [join_cons _ _ (by simp), List.append_assoc, List.singleton_append,
        cut_append_separator, ih (by simp)]
      rfl

/-- There is one piece more than there are separators. -/
theorem length_cut (separator : Char) (s : List Char) :
    (cut separator s).length = s.count separator + 1 := by
  induction s with
  | nil => rfl
  | cons c s ih =>
    by_cases hc : c = separator
    · simp [cut, hc, ih]
    · have hne := cut_ne_nil separator s
      cases hcut : cut separator s with
      | nil => exact absurd hcut hne
      | cons piece pieces =>
        have hlength : (cut separator (c :: s)).length = (cut separator s).length := by
          simp [cut, hc, hcut]
        rw [hlength, ih, List.count_cons_of_ne hc]

/-- Joined texts fall into one piece for each of them and one for each separator in them. -/
theorem length_cut_join {separator : Char} {texts : List (List Char)} (hne : texts ≠ []) :
    (cut separator (join [separator] texts)).length =
      texts.length + texts.flatten.count separator := by
  rw [cut_join_flatMap hne]
  clear hne
  induction texts with
  | nil => rfl
  | cons text rest ih =>
    rw [List.flatMap_cons, List.length_append, ih, length_cut, List.length_cons,
      List.flatten_cons, List.count_append]
    omega

/-- Pieces that hold no separator are found again when their joined text is cut. -/
theorem cut_join {separator : Char} {pieces : List (List Char)} (hne : pieces ≠ [])
    (h : ∀ p ∈ pieces, separator ∉ p) : cut separator (join [separator] pieces) = pieces := by
  rw [cut_join_flatMap hne]
  clear hne
  induction pieces with
  | nil => rfl
  | cons piece pieces ih =>
    obtain ⟨hpiece, hpieces⟩ := List.forall_mem_cons.1 h
    rw [List.flatMap_cons, cut_of_not_mem hpiece, ih hpieces, List.singleton_append]

/-- Cutting finds the joined texts again if and only if they hold no separator. -/
theorem cut_join_iff {separator : Char} {texts : List (List Char)} (hne : texts ≠ []) :
    cut separator (join [separator] texts) = texts ↔ separator ∉ texts.flatten := by
  constructor
  · intro h
    have hlength := congrArg List.length h
    rw [length_cut_join hne] at hlength
    exact List.count_eq_zero.1 (by omega)
  · intro h
    refine cut_join hne fun text htext hmem => ?_
    exact h (List.mem_flatten.2 ⟨text, htext, hmem⟩)

/-- The pieces of a text hold no separator. -/
theorem not_mem_of_mem_cut {separator : Char} {s piece : List Char} (h : piece ∈ cut separator s) :
    separator ∉ piece := by
  have hcut : cut separator (join [separator] (cut separator s)) = cut separator s := by
    rw [join_cut]
  intro hmem
  exact (cut_join_iff (cut_ne_nil separator s)).1 hcut (List.mem_flatten.2 ⟨piece, h, hmem⟩)

/-- A character that is no separator is found as often in the pieces as in the joined text. -/
theorem count_join {c separator : Char} (h : c ≠ separator) (pieces : List (List Char)) :
    (join [separator] pieces).count c = pieces.flatten.count c := by
  induction pieces with
  | nil => rfl
  | cons piece pieces ih =>
    cases pieces with
    | nil => simp [join]
    | cons p ps =>
      have hseparator : [separator].count c = 0 := List.count_eq_zero.2 (by simpa using h)
      rw [join_cons _ _ (by simp), List.count_append, List.count_append, ih, hseparator,
        Nat.add_zero, ← List.count_append]
      rfl

theorem mem_join {c separator : Char} (h : c ≠ separator) {pieces : List (List Char)} :
    c ∈ join [separator] pieces ↔ c ∈ pieces.flatten := by
  rw [← List.count_pos_iff, count_join h, List.count_pos_iff]

/-- What is joined already may be joined with other pieces. -/
theorem join_splice (separator : List Char) (front back : List (List Char))
    {pieces : List (List Char)} (h : pieces ≠ []) :
    join separator (front ++ join separator pieces :: back) =
      join separator (front ++ pieces ++ back) := by
  induction front with
  | nil =>
    rw [List.nil_append, List.nil_append]
    induction pieces with
    | nil => exact absurd rfl h
    | cons piece pieces ih =>
      cases pieces with
      | nil => rfl
      | cons p ps =>
        have hrest := ih (by simp)
        cases back with
        | nil => simp [join]
        | cons b bs =>
          rw [join_cons separator _ (by simp)] at hrest ⊢
          rw [join_cons separator piece (by simp), List.cons_append,
            join_cons separator piece (by simp), ← hrest]
          simp only [List.append_assoc]
  | cons first front ih =>
    have hne : front ++ pieces ++ back ≠ [] := by simp [h]
    rw [List.cons_append, join_cons _ _ (by simp), ih, List.cons_append, List.cons_append,
      join_cons _ _ hne]

end Telemetry.Text
