import Telemetry.Proofs.Statsd.Separators

/-!
# Telegraf tags that are read back

Telegraf takes an equals sign with a backslash before it for a part of a key or a value, and the first
one without for the sign between them. A tag is read back that way, up to the characters that had to
be replaced, unless its key ends with a backslash: nothing escapes a backslash, so this one takes the
sign behind the key with it, and the tag is the text of a key alone.

## Main definitions

- `cleaned`, `escaped` — the two things that are done to a key or a value
- `parted?`, `readTag?` — a tag cut at its first bare equals sign, and read back

## Main statements

- `telegraf_tag_read` — which tags are read back, and what becomes of the others
- `telegraf_tags_collide` — two tags with one text
-/

namespace Telemetry.Statsd

/-- A text with an underscore for every reserved character. -/
def cleaned (s : List Char) : List Char := s.map fun c => if isReserved c then '_' else c

def escaped (s : List Char) : List Char := s.flatMap fun c => if c = '=' then ['\\', '='] else [c]

def unescaped : List Char → List Char
  | [] => []
  | '\\' :: '=' :: rest => '=' :: unescaped rest
  | c :: rest => c :: unescaped rest

/-- The texts around the first equals sign that has no backslash before it, where `front` is what has
been passed already. -/
def parted? (front : List Char) : List Char → Option (List Char × List Char)
  | [] => none
  | c :: rest =>
    if c = '=' ∧ front.getLast? ≠ some '\\' then some (front, rest) else parted? (front ++ [c]) rest

def readTag? (tag : List Char) : Option (List Char × List Char) :=
  (parted? [] tag).map fun parts => (unescaped parts.1, unescaped parts.2)

/-! ## Escaped texts -/

theorem telegrafEscape_eq (s : List Char) : telegrafEscape s = escaped (cleaned s) := by
  have hchar (c : Char) : telegrafChar c =
      if (if isReserved c then '_' else c) = '=' then ['\\', '=']
      else [if isReserved c then '_' else c] := by
    have hreserved : isReserved c = true ↔ c = ',' ∨ c = ':' ∨ Text.isBlank c = true := by
      simp only [isReserved, Bool.or_eq_true, beq_iff_eq]
      tauto
    unfold telegrafChar
    by_cases hc : isReserved c = true
    · have hne : c ≠ '=' := by
        rintro rfl
        exact absurd hc (by decide)
      rw [if_neg hne, if_pos (hreserved.1 hc), if_pos hc]
      rfl
    · rw [if_neg hc, if_neg (mt hreserved.2 hc)]
  rw [telegrafEscape, escaped, cleaned, List.flatMap_map]
  exact congrArg (s.flatMap ·) (funext hchar)

theorem escaped_append (s t : List Char) : escaped (s ++ t) = escaped s ++ escaped t :=
  List.flatMap_append

theorem escaped_equals (rest : List Char) : escaped ('=' :: rest) = '\\' :: '=' :: escaped rest :=
  rfl

theorem escaped_cons {c : Char} (h : c ≠ '=') (rest : List Char) :
    escaped (c :: rest) = c :: escaped rest := by
  simp [escaped, h]

theorem getLast?_escaped (s : List Char) : (escaped s).getLast? = s.getLast? := by
  rcases List.eq_nil_or_concat s with rfl | ⟨init, c, rfl⟩
  · rfl
  · rw [List.concat_eq_append, escaped_append]
    by_cases hc : c = '=' <;> simp [escaped, hc]

/-- A replaced character is no backslash. -/
theorem getLast?_cleaned (s : List Char) :
    (cleaned s).getLast? = some '\\' ↔ s.getLast? = some '\\' := by
  rw [cleaned, List.getLast?_map, Option.map_eq_some_iff]
  constructor
  · rintro ⟨c, hlast, hc⟩
    by_cases hreserved : isReserved c = true
    · rw [if_pos hreserved] at hc
      exact absurd hc (by decide)
    · rw [if_neg hreserved] at hc
      rw [hlast, hc]
  · intro hlast
    exact ⟨_, hlast, by decide⟩

/-- No escaped text begins with an equals sign, so no new pair appears where a character is put
before it. -/
theorem unescaped_cons_escaped (c : Char) (s : List Char) :
    unescaped (c :: escaped s) = c :: unescaped (escaped s) := by
  cases s with
  | nil => simp [escaped, unescaped]
  | cons d rest =>
    by_cases hd : d = '='
    · rw [hd, escaped_equals]
      simp [unescaped]
    · rw [escaped_cons hd]
      simp [unescaped, hd]

theorem unescaped_escaped (s : List Char) : unescaped (escaped s) = s := by
  induction s with
  | nil => rfl
  | cons c rest ih =>
    by_cases hc : c = '='
    · rw [hc, escaped_equals, unescaped, ih]
    · rw [escaped_cons hc, unescaped_cons_escaped, ih]

/-! ## Where a tag is cut -/

/-- Every equals sign of an escaped text has a backslash before it. -/
theorem getLast?_of_escaped_eq {s front back : List Char} (h : escaped s = front ++ '=' :: back) :
    front.getLast? = some '\\' := by
  induction s generalizing front with
  | nil => simp [escaped] at h
  | cons c rest ih =>
    by_cases hc : c = '='
    · rw [hc, escaped_equals] at h
      rcases front with _ | ⟨x, _ | ⟨y, front⟩⟩
      · cases (List.cons.inj h).1
      · rw [← (List.cons.inj h).1]
        rfl
      · have hrest : escaped rest = front ++ '=' :: back := (List.cons.inj (List.cons.inj h).2).2
        rw [List.getLast?_cons_cons, List.getLast?_cons, ih hrest]
        rfl
    · rw [escaped_cons hc] at h
      rcases front with _ | ⟨x, front⟩
      · exact absurd (List.cons.inj h).1 hc
      · rw [List.getLast?_cons, ih (List.cons.inj h).2]
        rfl

/-- A text is passed in which no equals sign is bare. -/
theorem parted?_append {s : List Char}
    (h : ∀ front back, s = front ++ '=' :: back → front.getLast? = some '\\')
    (passed rest : List Char) : parted? passed (s ++ rest) = parted? (passed ++ s) rest := by
  -- the induction takes characters from `s` to what has been passed
  suffices hinit : ∀ done more, s = done ++ more →
      parted? (passed ++ done) (more ++ rest) = parted? (passed ++ s) rest by
    simpa using hinit [] s rfl
  intro done more hs
  induction more generalizing done with
  | nil => rw [hs, List.append_nil, List.nil_append]
  | cons c more ih =>
    have hnext := ih (done ++ [c]) (by simpa using hs)
    rw [List.cons_append, parted?, if_neg, List.append_assoc, hnext]
    rintro ⟨rfl, hbare⟩
    rw [List.getLast?_append, h done more hs] at hbare
    exact hbare rfl

theorem parted?_escaped (passed s rest : List Char) :
    parted? passed (escaped s ++ rest) = parted? (passed ++ escaped s) rest :=
  parted?_append (fun _ _ => getLast?_of_escaped_eq) passed rest

/-- A tag is cut at the equals sign behind its key, unless the key ends with a backslash. -/
theorem parted?_tag (key value : List Char) :
    parted? [] (escaped key ++ '=' :: escaped value) =
      if key.getLast? = some '\\' then none else some (escaped key, escaped value) := by
  rw [parted?_escaped, List.nil_append, parted?, getLast?_escaped]
  by_cases hkey : key.getLast? = some '\\'
  · rw [if_neg (fun h => h.2 hkey), if_pos hkey, ← List.append_nil (escaped value), parted?_escaped]
    rfl
  · rw [if_pos ⟨rfl, hkey⟩, if_neg hkey]

theorem telegrafTag_eq (key value : List Char) :
    telegrafTag key value = escaped (cleaned key) ++ '=' :: escaped (cleaned value) := by
  rw [telegrafTag, telegrafEscape_eq, telegrafEscape_eq, List.append_assoc, List.singleton_append]

/-- A tag is read back as its key and its value, cleaned, if and only if its key does not end with a
backslash. Hence no other tag has the text of such a tag, unless the two differ in replaced characters
alone. A tag with a backslash at the end of its key has the text of a key alone, in which an equals
sign stands for that backslash. -/
theorem telegraf_tag_read (key value : List Char) :
    readTag? (telegrafTag key value) =
        (if key.getLast? = some '\\' then none else some (cleaned key, cleaned value)) ∧
      (∀ key' value', key.getLast? ≠ some '\\' →
        (cleaned key, cleaned value) ≠ (cleaned key', cleaned value') →
        telegrafTag key value ≠ telegrafTag key' value') ∧
      (key.getLast? = some '\\' →
        telegrafTag key value = telegrafEscape (key.dropLast ++ '=' :: value)) := by
  have hread (key value : List Char) : readTag? (telegrafTag key value) =
      if key.getLast? = some '\\' then none else some (cleaned key, cleaned value) := by
    rw [readTag?, telegrafTag_eq, parted?_tag]
    simp only [getLast?_cleaned]
    by_cases hkey : key.getLast? = some '\\'
    · rw [if_pos hkey, if_pos hkey]
      rfl
    · rw [if_neg hkey, if_neg hkey, Option.map_some, unescaped_escaped, unescaped_escaped]
  refine ⟨hread key value, fun key' value' hkey hne heq => ?_, fun hkey => ?_⟩
  · have hsame := hread key value
    rw [heq, hread key' value', if_neg hkey] at hsame
    by_cases hkey' : key'.getLast? = some '\\'
    · rw [if_pos hkey'] at hsame
      cases hsame
    · rw [if_neg hkey'] at hsame
      exact hne (Option.some.inj hsame).symm
  · obtain ⟨init, rfl⟩ := List.getLast?_eq_some_iff.1 hkey
    have hback : telegrafChar '\\' = ['\\'] := by decide
    have hequals : telegrafChar '=' = ['\\', '='] := rfl
    rw [List.dropLast_concat]
    simp [telegrafTag, telegrafEscape, hback, hequals]

/-- Two tags that differ have one text, which cannot be read back as either of them. -/
theorem telegraf_tags_collide :
    let first := ("a\\".toList, "b=c".toList)
    let second := ("a=b\\".toList, "c".toList)
    (cleaned first.1, cleaned first.2) = first ∧ (cleaned second.1, cleaned second.2) = second ∧
      first ≠ second ∧ telegrafTag first.1 first.2 = "a\\=b\\=c".toList ∧
      telegrafTag second.1 second.2 = "a\\=b\\=c".toList ∧ readTag? "a\\=b\\=c".toList = none := by
  decide

/-- Equals signs, blanks and backslashes elsewhere do no harm. -/
theorem telegraf_tag_read_escapes :
    "k\\=1".toList.getLast? ≠ some '\\' ∧
      readTag? (telegrafTag "k\\=1".toList "v\\ v\\".toList) =
        some ("k\\=1".toList, "v\\_v\\".toList) ∧
      telegrafTag "k\\=1".toList "v\\ v\\".toList ≠ telegrafTag "k".toList "1=v\\ v\\".toList := by
  have hkey : "k\\=1".toList.getLast? ≠ some '\\' := by decide
  obtain ⟨hread, hdiffers, -⟩ := telegraf_tag_read "k\\=1".toList "v\\ v\\".toList
  rw [if_neg hkey] at hread
  exact ⟨hkey, hread.trans (by decide), hdiffers _ _ hkey (by decide)⟩

end Telemetry.Statsd
