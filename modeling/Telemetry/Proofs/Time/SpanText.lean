import Mathlib.Tactic.LinearCombination
import Telemetry.Proofs.Time.Nanoseconds
import Telemetry.Text.Pieces
import Telemetry.Time.SpanText

/-!
# Written spans are read back

A span is written as a sum of amounts, each so many of one unit, without those that are zero, and
amounts are read as their sum. A format that documents no more than this reads what it writes: the
amounts of a span add up to it, and all of them are small enough for reading, up to the longest
span. The usual format does as documented: it adds the amounts one after another, each read digit by
digit and then letter by letter.

## Main definitions

- `Amount`, `amounts` — the sum that a written span stands for
- `Amount.Readable` — what reading asks of one amount
- `SpanFormat.Documented` — what is documented of a format

## Main statements

- `SpanFormat.Documented.read?_write` — reading undoes writing
- `SpanFormat.documented_standard` — the usual format does as documented
-/

namespace Telemetry

namespace Span

/-- So many of a unit, under the name that goes with the number. -/
structure Amount where
  count : Nat
  unit : String
  /-- The nanoseconds in one of the unit. -/
  scale : Nat

namespace Amount

def nanos (amount : Amount) : Nat := amount.count * amount.scale

def text (amount : Amount) : String := toString amount.count ++ amount.unit

/-- The units in which spans are written, under all their names, and the nanoseconds in each. -/
def units : List (String × Nat) :=
  [("year", 31557600 * nanosPerSecond), ("years", 31557600 * nanosPerSecond),
   ("month", 2630016 * nanosPerSecond), ("months", 2630016 * nanosPerSecond),
   ("day", 86400 * nanosPerSecond), ("days", 86400 * nanosPerSecond),
   ("h", 3600 * nanosPerSecond), ("m", 60 * nanosPerSecond), ("s", nanosPerSecond),
   ("ms", 1000000), ("us", 1000), ("ns", 1)]

/-- The unit is one of those, the number fits a word, and amounts of a unit below the second stay
below it. -/
structure Readable (amount : Amount) : Prop where
  known : (amount.unit, amount.scale) ∈ units
  fits : amount.count < UInt64.size
  small : amount.scale < nanosPerSecond → amount.nanos < nanosPerSecond

end Amount

def plural (n : Nat) (unit : String) : String := if n = 1 then unit else unit ++ "s"

/-- The sum that the written form of a span stands for. -/
def amounts (s : Span) : List Amount :=
  let inYear := s.seconds % 31557600
  let inMonth := inYear % 2630016
  let inDay := inMonth % 86400
  [⟨s.seconds / 31557600, plural (s.seconds / 31557600) "year", 31557600 * nanosPerSecond⟩,
   ⟨inYear / 2630016, plural (inYear / 2630016) "month", 2630016 * nanosPerSecond⟩,
   ⟨inMonth / 86400, plural (inMonth / 86400) "day", 86400 * nanosPerSecond⟩,
   ⟨inDay / 3600, "h", 3600 * nanosPerSecond⟩,
   ⟨inDay % 3600 / 60, "m", 60 * nanosPerSecond⟩,
   ⟨inDay % 60, "s", nanosPerSecond⟩,
   ⟨s.subsecond / 1000000, "ms", 1000000⟩,
   ⟨s.subsecond / 1000 % 1000, "us", 1000⟩,
   ⟨s.subsecond % 1000, "ns", 1⟩]

def sum (amounts : List Amount) : Nat := (amounts.map Amount.nanos).sum

end Span

/-- A span is written as its amounts that are not zero, with a space between them, and amounts are
read as their sum if it is a span. -/
structure SpanFormat.Documented (format : SpanFormat) : Prop where
  write_zero : format.write Span.zero = "0s"
  write_amounts : ∀ s : Span, s.nanos ≠ 0 →
    format.write s = " ".intercalate ((s.amounts.filter (·.count ≠ 0)).map Span.Amount.text)
  read_amounts : ∀ (amounts : List Span.Amount) (s : Span), amounts ≠ [] →
    (∀ a ∈ amounts, a.Readable) → Span.sum amounts = s.nanos →
    format.read? (" ".intercalate (amounts.map Span.Amount.text)) = some s

namespace Span

/-! ## One character -/

theorem isDigit_of_isUnitChar {c : Char} (h : isUnitChar c = true) : c.isDigit = false := by
  rw [isUnitChar, Bool.or_eq_true, beq_iff_eq] at h
  rcases h with hletter | rfl
  · change (decide (c.val ≥ 'A'.val ∧ c.val ≤ 'Z'.val) ||
      decide (c.val ≥ 'a'.val) && decide (c.val ≤ 'z'.val)) = true at hletter
    simp only [Bool.or_eq_true, Bool.and_eq_true, decide_eq_true_eq, ge_iff_le,
      UInt32.le_iff_toNat_le] at hletter
    change (65 ≤ c.toNat ∧ c.toNat ≤ 90) ∨ (97 ≤ c.toNat ∧ c.toNat ≤ 122) at hletter
    simp only [Char.isDigit, Bool.and_eq_false_iff, decide_eq_false_iff_not, ge_iff_le,
      UInt32.le_iff_toNat_le]
    change ¬48 ≤ c.toNat ∨ ¬c.toNat ≤ 57
    omega
  · decide

theorem isBlank_of_isUnitChar {c : Char} (h : isUnitChar c = true) : Text.isBlank c = false := by
  rw [isUnitChar, Bool.or_eq_true, beq_iff_eq] at h
  rcases h with hletter | rfl
  · exact Text.isBlank_of_isAlphanum (by simp [Char.isAlphanum, hletter])
  · decide

section Step

variable (total : Option Span) (n : Nat) (name rest : List Char) {c : Char}

theorem readFrom_ahead_digit (hc : c.isDigit = true) :
    readFrom total .ahead (c :: rest) = readFrom total (.whole (digitValue c)) rest :=
  if_pos hc

theorem readFrom_whole_digit (hc : c.isDigit = true) (hfits : n * 10 + digitValue c < UInt64.size) :
    readFrom total (.whole n) (c :: rest) =
      readFrom total (.whole (n * 10 + digitValue c)) rest := by
  have hpush : pushDigit? n c = some (n * 10 + digitValue c) := if_pos hfits
  refine (if_pos hc).trans ?_
  rw [hpush]

theorem readFrom_whole_letter (hc : isUnitChar c = true) :
    readFrom total (.whole n) (c :: rest) = readFrom total (.unit n none [c]) rest := by
  change (if c.isDigit then _ else if Text.isBlank c then _ else if isUnitChar c then _ else _) = _
  rw [isDigit_of_isUnitChar hc, isBlank_of_isUnitChar hc, hc]
  rfl

theorem readFrom_unit_letter (hc : isUnitChar c = true) :
    readFrom total (.unit n none name) (c :: rest) =
      readFrom total (.unit n none (c :: name)) rest := by
  change (if c.isDigit then _ else if Text.isBlank c then _ else if isUnitChar c then _ else _) = _
  rw [isDigit_of_isUnitChar hc, isBlank_of_isUnitChar hc, hc]
  rfl

theorem readFrom_unit_space :
    readFrom total (.unit n none name) (' ' :: rest) =
      (addPart? (total.getD zero) n none name.reverse).bind fun sum =>
        readFrom (some sum) .ahead rest := by
  have hblank : Text.isBlank ' ' = true := by decide
  refine (if_neg (by decide)).trans ((if_pos hblank).trans ?_)
  cases addPart? (total.getD zero) n none name.reverse <;> rfl

end Step

/-! ## One amount -/

theorem le_ofDigitChars (digits : List Char) (n : Nat) : n ≤ Nat.ofDigitChars 10 digits n := by
  induction digits generalizing n with
  | nil => exact Nat.le_refl n
  | cons c rest ih =>
    rw [Nat.ofDigitChars_cons]
    exact Nat.le_trans (by omega) (ih _)

section Amount

variable (total : Option Span) (rest : List Char)

/-- No number on the way to a number that fits a word exceeds one. -/
theorem readFrom_digits {digits : List Char} (hdigits : ∀ c ∈ digits, c.isDigit = true) {n : Nat}
    (hfits : Nat.ofDigitChars 10 digits n < UInt64.size) :
    readFrom total (.whole n) (digits ++ rest) =
      readFrom total (.whole (Nat.ofDigitChars 10 digits n)) rest := by
  induction digits generalizing n with
  | nil => rfl
  | cons c digits ih =>
    obtain ⟨hc, hdigits⟩ := List.forall_mem_cons.1 hdigits
    rw [Nat.ofDigitChars_cons, Nat.mul_comm] at hfits ⊢
    have hn : n * 10 + digitValue c < UInt64.size :=
      Nat.lt_of_le_of_lt (le_ofDigitChars digits _) hfits
    rw [List.cons_append, readFrom_whole_digit total n _ hc hn]
    exact ih hdigits hfits

theorem readFrom_letters {letters : List Char} (hletters : ∀ c ∈ letters, isUnitChar c = true)
    (n : Nat) (name : List Char) :
    readFrom total (.unit n none name) (letters ++ rest) =
      readFrom total (.unit n none (letters.reverse ++ name)) rest := by
  induction letters generalizing name with
  | nil => rfl
  | cons c letters ih =>
    obtain ⟨hc, hletters⟩ := List.forall_mem_cons.1 hletters
    rw [List.cons_append, readFrom_unit_letter total n name _ hc, ih hletters, List.reverse_cons,
      List.append_assoc, List.singleton_append]

/-- The unit has a name of letters, under which the usual format knows it. -/
theorem Amount.Readable.named {amount : Amount} (h : amount.Readable) :
    amount.unit.toList ≠ [] ∧ (∀ c ∈ amount.unit.toList, isUnitChar c = true) ∧
      (Scale.named? amount.unit).map Scale.nanos = some amount.scale := by
  have hne : ∀ u ∈ units, u.1.toList ≠ [] := by decide
  have hletters : ∀ u ∈ units, u.1.toList.all isUnitChar = true := by decide
  have hscale : ∀ u ∈ units, (Scale.named? u.1).map Scale.nanos = some u.2 := by decide
  exact ⟨hne _ h.known, List.all_eq_true.1 (hletters _ h.known), hscale _ h.known⟩

variable {amount : Amount} (hreadable : amount.Readable)

include hreadable

/-- An amount is read up to the last letter of its unit. -/
theorem readFrom_amount :
    readFrom total .ahead (amount.text.toList ++ rest) =
      readFrom total (.unit amount.count none amount.unit.toList.reverse) rest := by
  have htext : amount.text.toList = Nat.toDigits 10 amount.count ++ amount.unit.toList := by
    rw [Amount.text, String.toList_append, Nat.toString_eq_ofList_toDigits, String.toList_ofList]
  have hdigits (c : Char) (hc : c ∈ Nat.toDigits 10 amount.count) : c.isDigit = true :=
    Nat.isDigit_of_mem_toDigits (by decide) (by decide) hc
  have hcount : Nat.ofDigitChars 10 (Nat.toDigits 10 amount.count) 0 = amount.count :=
    Nat.ofDigitChars_ten_toDigits
  obtain ⟨digit, digits, hfirst⟩ := List.exists_cons_of_ne_nil
    (Nat.toDigits_ne_nil (n := amount.count) (b := 10))
  obtain ⟨hne, hletters, -⟩ := hreadable.named
  obtain ⟨letter, letters, hunit⟩ := List.exists_cons_of_ne_nil hne
  rw [hfirst] at htext hdigits hcount
  obtain ⟨hdigit, hdigits⟩ := List.forall_mem_cons.1 hdigits
  rw [hunit] at htext hletters
  obtain ⟨hletter, hletters⟩ := List.forall_mem_cons.1 hletters
  rw [Nat.ofDigitChars_cons, Nat.mul_zero, Nat.zero_add] at hcount
  have hread := readFrom_digits total (letter :: (letters ++ rest)) hdigits
    (n := digitValue digit) (hcount ▸ hreadable.fits)
  rw [htext, hunit, List.append_assoc, List.cons_append, List.cons_append,
    readFrom_ahead_digit total _ hdigit, hread, readFrom_whole_letter total _ _ hletter,
    readFrom_letters total rest hletters, List.reverse_cons]
  exact congrArg (fun n => readFrom total (.unit n none _) rest) hcount

/-- What has been read grows by the amount. -/
theorem addPart?_amount (before : Span) :
    addPart? before amount.count none amount.unit.toList = before.plus? amount.nanos := by
  obtain ⟨-, -, hnamed⟩ := hreadable.named
  obtain ⟨scale, hnamed, hscale⟩ := Option.map_eq_some_iff.1 hnamed
  have hwhole : wholeNanos? before scale amount.count = some amount.nanos := by
    unfold wholeNanos?
    rw [hscale]
    split
    · next hsmall =>
      have hnanos := hreadable.small hsmall
      have hbefore : before.subsecond < nanosPerSecond := Nat.mod_lt _ (by decide)
      have hword {n : Nat} (h : n < 2 * nanosPerSecond) : word? n = some n :=
        if_pos (Nat.lt_trans h (by decide))
      unfold Amount.nanos at hnanos ⊢
      rw [hword (by omega), Option.bind_some, hword (by omega), Option.map_some]
    · rfl
  rw [addPart?, String.ofList_toList, hnamed]
  change ((wholeNanos? before scale amount.count).bind fun whole =>
    (before.plus? whole).bind some) = _
  rw [hwhole, Option.bind_some, Option.bind_fun_some]

end Amount

/-! ## Sums of amounts -/

theorem sum_nil : sum [] = 0 := rfl

theorem sum_cons (amount : Amount) (rest : List Amount) :
    sum (amount :: rest) = amount.nanos + sum rest :=
  List.sum_cons

theorem plus?_add (s : Span) (m n : Nat) :
    s.plus? (m + n) = (s.plus? m).bind fun sum => sum.plus? n := by
  unfold plus?
  by_cases hm : s.nanos + m ≤ longestNanos
  · simp only [hm, dif_pos, Option.bind_some, Nat.add_assoc]
  · rw [dif_neg hm, dif_neg (by omega), Option.bind_none]

/-- One amount after another is added to what has been read. -/
theorem readFrom_amounts {amounts : List Amount} (hne : amounts ≠ [])
    (hreadable : ∀ a ∈ amounts, a.Readable) (total : Option Span) :
    readFrom total .ahead (Text.join [' '] (amounts.map fun a => a.text.toList)) =
      (total.getD zero).plus? (sum amounts) := by
  induction amounts generalizing total with
  | nil => exact absurd rfl hne
  | cons amount rest ih =>
    obtain ⟨hamount, hrest⟩ := List.forall_mem_cons.1 hreadable
    cases rest with
    | nil =>
      have hread := readFrom_amount total [] hamount
      rw [List.append_nil] at hread
      change readFrom total .ahead amount.text.toList = (total.getD zero).plus? amount.nanos
      rw [hread]
      change addPart? (total.getD zero) amount.count none amount.unit.toList.reverse.reverse = _
      rw [List.reverse_reverse, addPart?_amount hamount]
    | cons next more =>
      have hread (sum : Span) := ih (by simp) hrest (some sum)
      rw [List.map_cons, Text.join_cons _ _ (by simp), List.append_assoc,
        readFrom_amount _ _ hamount, List.singleton_append, readFrom_unit_space, List.reverse_reverse, addPart?_amount hamount,
        sum_cons, plus?_add]
      simp only [hread, Option.getD_some]

theorem sum_filter (amounts : List Amount) : sum (amounts.filter (·.count ≠ 0)) = sum amounts := by
  induction amounts with
  | nil => rfl
  | cons amount rest ih =>
    by_cases hzero : amount.count = 0
    · have hnanos : amount.nanos = 0 := by rw [Amount.nanos, hzero, Nat.zero_mul]
      rw [List.filter_cons_of_neg (by simpa using hzero), ih, sum_cons, hnanos, Nat.zero_add]
    · rw [List.filter_cons_of_pos (by simpa using hzero), sum_cons, sum_cons, ih]

/-! ## The amounts of a span -/

section Readable

variable {count scale : Nat} {unit : String} (hknown : (unit, scale) ∈ Amount.units)

include hknown

theorem Amount.Readable.of_long (hcount : count < UInt64.size) (hlong : nanosPerSecond ≤ scale) :
    Readable ⟨count, unit, scale⟩ :=
  ⟨hknown, hcount, fun hshort => absurd hlong (Nat.not_le_of_lt hshort)⟩

theorem Amount.Readable.of_short (hcount : count < 1000) (hshort : scale ≤ 1000000) :
    Readable ⟨count, unit, scale⟩ := by
  refine ⟨hknown, Nat.lt_trans hcount (by decide), fun _ => ?_⟩
  calc count * scale ≤ count * 1000000 := Nat.mul_le_mul_left _ hshort
    _ < nanosPerSecond := Nat.mul_lt_mul_of_pos_right hcount (by decide)

end Readable

theorem plural_mem_units {unit : String} {scale : Nat} (hone : (unit, scale) ∈ Amount.units)
    (hmany : (unit ++ "s", scale) ∈ Amount.units) (n : Nat) :
    (plural n unit, scale) ∈ Amount.units := by
  unfold plural
  split
  · exact hone
  · exact hmany

theorem calendar (n : Nat) :
    n / 31557600 * 31557600 + n % 31557600 / 2630016 * 2630016 +
      n % 31557600 % 2630016 / 86400 * 86400 + n % 31557600 % 2630016 % 86400 / 3600 * 3600 +
        n % 31557600 % 2630016 % 86400 % 3600 / 60 * 60 +
          n % 31557600 % 2630016 % 86400 % 60 = n := by
  omega

theorem thousands (n : Nat) : n / 1000000 * 1000000 + n / 1000 % 1000 * 1000 + n % 1000 = n := by
  omega

theorem nanos_mk (count : Nat) (unit : String) (scale : Nat) :
    (Amount.mk count unit scale).nanos = count * scale :=
  rfl

theorem sum_amounts (s : Span) : sum s.amounts = s.nanos := by
  have hnanos : s.seconds * nanosPerSecond + s.subsecond = s.nanos := Nat.div_add_mod' _ _
  have hseconds := calendar s.seconds
  have hsubsecond := thousands s.subsecond
  simp only [amounts, sum_cons, sum_nil, nanos_mk]
  linear_combination nanosPerSecond * hseconds + hsubsecond + hnanos

theorem parts_eq (s : Span) :
    s.parts = (s.amounts.filter (·.count ≠ 0)).map Amount.text := by
  have hpart (amount : Amount) (rest : List Amount) :
      ((amount :: rest).filter (·.count ≠ 0)).map Amount.text =
        part amount.count amount.unit ++ (rest.filter (·.count ≠ 0)).map Amount.text := by
    by_cases hzero : amount.count = 0
    · rw [part, if_pos hzero, List.filter_cons_of_neg (by simpa using hzero), List.nil_append]
    · rw [part, if_neg hzero, List.filter_cons_of_pos (by simpa using hzero), List.map_cons]
      rfl
  simp only [amounts, hpart, List.filter_nil, List.map_nil]
  simp only [parts, pluralPart, plural, List.append_assoc, List.append_nil]

theorem seconds_lt (s : Span) : s.seconds < UInt64.size := by
  refine Nat.div_lt_of_lt_mul (Nat.lt_of_le_of_lt s.le_longest ?_)
  rw [longestNanos, Nat.mul_comm]
  exact Nat.sub_lt (by decide) Nat.one_pos

theorem readable_of_mem_amounts (s : Span) : ∀ a ∈ s.amounts, a.Readable := by
  have hsubsecond : s.subsecond < 1000000000 := Nat.mod_lt _ (by decide)
  have hword {n : Nat} (h : n ≤ s.seconds) : n < UInt64.size := Nat.lt_of_le_of_lt h s.seconds_lt
  simp only [amounts, List.forall_mem_cons]
  refine ⟨.of_long (plural_mem_units (by decide) (by decide) _) (hword (by omega)) (by decide),
    .of_long (plural_mem_units (by decide) (by decide) _) (hword (by omega)) (by decide),
    .of_long (plural_mem_units (by decide) (by decide) _) (hword (by omega)) (by decide),
    .of_long (by decide) (hword (by omega)) (by decide),
    .of_long (by decide) (hword (by omega)) (by decide),
    .of_long (by decide) (hword (by omega)) (by decide),
    .of_short (by decide) (by omega) (by decide), .of_short (by decide) (by omega) (by decide),
    .of_short (by decide) (by omega) (by decide), fun _ h => absurd h List.not_mem_nil⟩

theorem zero_plus? (s : Span) : zero.plus? s.nanos = some s := by
  have hnanos : zero.nanos + s.nanos = s.nanos := Nat.zero_add _
  have hfits : zero.nanos + s.nanos ≤ longestNanos := hnanos.trans_le s.le_longest
  rw [plus?, dif_pos hfits]
  exact congrArg some (eq_of_nanos_eq hnanos)

/-- Amounts are read as their sum; they are never the one text that is read without a unit. -/
theorem ofText?_amounts {amounts : List Amount} {s : Span} (hne : amounts ≠ [])
    (hreadable : ∀ a ∈ amounts, a.Readable) (hsum : sum amounts = s.nanos) :
    ofText? (" ".intercalate (amounts.map Amount.text)) = some s := by
  have hread :
      readFrom none .ahead (" ".intercalate (amounts.map Amount.text)).toList = some s := by
    rw [Text.toList_intercalate, List.map_map]
    refine (readFrom_amounts hne hreadable none).trans ?_
    rw [hsum]
    exact zero_plus? s
  have htext : " ".intercalate (amounts.map Amount.text) ≠ "0" := by
    intro h
    rw [h] at hread
    cases hread
  rw [ofText?, if_neg htext, hread]

end Span

namespace SpanFormat

/-- Reading undoes writing. -/
theorem Documented.read?_write {format : SpanFormat} (h : format.Documented) (s : Span) :
    format.read? (format.write s) = some s := by
  by_cases hzero : s.nanos = 0
  · -- no amount is left to write, and the text stands for one that is zero
    have hs : s = Span.zero := Span.eq_of_nanos_eq hzero
    have hreadable : Span.Amount.Readable ⟨0, "s", nanosPerSecond⟩ :=
      .of_long (by decide) (by decide) (by decide)
    have hread := h.read_amounts [⟨0, "s", nanosPerSecond⟩] Span.zero (List.cons_ne_nil _ _)
      (List.forall_mem_singleton.2 hreadable) rfl
    rw [hs, h.write_zero]
    exact hread
  · have hsum : Span.sum (s.amounts.filter (·.count ≠ 0)) = s.nanos :=
      (Span.sum_filter s.amounts).trans (Span.sum_amounts s)
    have hne : s.amounts.filter (·.count ≠ 0) ≠ [] := by
      intro hnil
      rw [hnil] at hsum
      exact hzero hsum.symm
    rw [h.write_amounts s hzero]
    exact h.read_amounts _ s hne
      (fun a ha => s.readable_of_mem_amounts a (List.mem_filter.1 ha).1) hsum

theorem documented_standard : standard.Documented where
  write_zero := rfl
  write_amounts s hs := by
    rw [← Span.parts_eq]
    exact if_neg hs
  read_amounts _ _ := Span.ofText?_amounts

end SpanFormat

end Telemetry
