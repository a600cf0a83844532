import Telemetry.Proofs.Statsd.Parts

/-!
# Lines that fall into their parts

Telegraf and Sysdig put the tags of a line before its value. Both clean names and tags after the
convention was applied, so that no convention can bring a separator in: a line is cut at its colon
into what is measured and what was measured, and the former at its separators into the name and
every single tag.

## Main definitions

- `isReserved` — the characters that both flavors keep out of names and tags
- `FlavorRules.Cleans` — a flavor that keeps them out

## Main statements

- `FlavorRules.Cleans.cut_line` — the colon of a line is found again
- `cut_lines` — the lines of Telegraf and Sysdig, cut into their parts
-/

namespace Telemetry.Statsd

/-! ## Reserved characters -/

/-- White space, or a colon or a comma. -/
def isReserved (c : Char) : Bool := Text.isBlank c || c == ':' || c == ','

/-- A text without reserved characters. -/
def Unreserved (s : List Char) : Prop := s.any isReserved = false

instance : DecidablePred Unreserved := fun _ => inferInstanceAs (Decidable (_ = false))

theorem unreserved_iff {s : List Char} : Unreserved s ↔ ∀ c ∈ s, isReserved c = false := by
  simp [Unreserved]

namespace Unreserved

variable {s t : List Char}

theorem append (hs : Unreserved s) (ht : Unreserved t) : Unreserved (s ++ t) := by
  rw [Unreserved, List.any_append, hs, ht, Bool.or_false]

theorem not_mem (h : Unreserved s) {c : Char} (hc : isReserved c = true) : c ∉ s := by
  intro hmem
  rw [unreserved_iff.1 h c hmem] at hc
  exact absurd hc Bool.false_ne_true

theorem isBlank_eq_false (h : Unreserved s) {c : Char} (hc : c ∈ s) : Text.isBlank c = false := by
  have hreserved := unreserved_iff.1 h c hc
  rw [isReserved, Bool.or_assoc, Bool.or_eq_false_iff] at hreserved
  exact hreserved.1

end Unreserved

theorem isReserved_of_isAlphanum {c : Char} (h : c.isAlphanum = true) : isReserved c = false := by
  have hblank := Text.isBlank_of_isAlphanum h
  have hcolon : c ≠ ':' := by
    rintro rfl
    exact absurd h (by decide)
  have hcomma : c ≠ ',' := by
    rintro rfl
    exact absurd h (by decide)
  simp [isReserved, hblank, hcolon, hcomma]

theorem unreserved_of_numeric {s : List Char} (h : Decimal.Numeric s) : Unreserved s := by
  rw [Decimal.numeric_iff] at h
  rw [unreserved_iff]
  intro c hc
  have hnumeric := h c hc
  rw [Decimal.isNumeric, Bool.or_eq_true, decide_eq_true_iff] at hnumeric
  rcases hnumeric with hdigit | hmark
  · refine isReserved_of_isAlphanum ?_
    rw [Char.isAlphanum, hdigit, Bool.or_true]
  · have hmarks : Unreserved ['-', '.', 'N', 'a', 'i', 'n', 'f'] := by decide
    exact unreserved_iff.1 hmarks c hmark

theorem unreserved_statistic (s : Statistic) : Unreserved s.name.toList := by
  cases s <;> decide

/-! ## Flavors that clean last -/

/-- A flavor that puts its tags before the value, and keeps reserved characters out of the names and
tags that a convention wrote. -/
structure FlavorRules.Cleans (flavor : FlavorRules) : Prop where
  layout : flavor.layout = .tagsBeforeValue
  last : flavor.sanitizesFirst = false
  name : ∀ name, Unreserved (flavor.sanitizeName name)
  tag : ∀ key value, Unreserved (flavor.formatTag key value)
  separator : Unreserved flavor.separator
  preamble : ∀ c ∈ flavor.preamble, Text.isBlank c = false ∧ c ≠ ':'

theorem unreserved_telegrafEscape (s : List Char) : Unreserved (telegrafEscape s) := by
  rw [unreserved_iff]
  intro c hc
  obtain ⟨raw, -, hc⟩ := List.mem_flatMap.1 hc
  unfold telegrafChar at hc
  split at hc
  · exact unreserved_iff.1 (by decide : Unreserved ['\\', '=']) c hc
  · split at hc
    · exact unreserved_iff.1 (by decide : Unreserved ['_']) c hc
    · next hplain =>
      obtain rfl := List.mem_singleton.1 hc
      simpa [isReserved, and_comm, and_assoc] using hplain

theorem cleans_telegraf : Flavor.telegraf.rules.Cleans where
  layout := rfl
  last := rfl
  name := unreserved_telegrafEscape
  tag key value :=
    ((unreserved_telegrafEscape key).append (by decide)).append (unreserved_telegrafEscape value)
  separator := by decide
  preamble := by simp [Flavor.rules]; decide

/-- A character that Sysdig keeps is a letter from a to z, a digit, an underscore or a dot. -/
theorem sysdigChar_cases (c : Char) :
    (sysdigChar c).isAlphanum = true ∨ sysdigChar c = '_' ∨ sysdigChar c = '.' := by
  unfold sysdigChar
  split
  · assumption
  · exact .inr (.inl rfl)

theorem unreserved_sysdigSanitize (s : List Char) : Unreserved (sysdigSanitize s) := by
  rw [unreserved_iff]
  intro c hc
  obtain ⟨raw, -, rfl⟩ := List.mem_map.1 hc
  rcases sysdigChar_cases raw with h | h | h
  · exact isReserved_of_isAlphanum h
  · rw [h]
    decide
  · rw [h]
    decide

/-- Sysdig keeps neither of its two other separators. -/
theorem not_mem_sysdigSanitize {c : Char} (hc : c = '#' ∨ c = '=') (s : List Char) :
    c ∉ sysdigSanitize s := by
  intro hmem
  obtain ⟨raw, -, hraw⟩ := List.mem_map.1 hmem
  have hcases := sysdigChar_cases raw
  rw [hraw] at hcases
  rcases hc with rfl | rfl
  · exact absurd hcases (by decide)
  · exact absurd hcases (by decide)

theorem cleans_sysdig : Flavor.sysdig.rules.Cleans where
  layout := rfl
  last := rfl
  name := unreserved_sysdigSanitize
  tag key value :=
    ((unreserved_sysdigSanitize key).append (by decide)).append (unreserved_sysdigSanitize value)
  separator := by decide
  preamble := by simp [Flavor.rules]; decide

/-! ## The parts of a line -/

section Cleans

variable {flavor : FlavorRules} (h : flavor.Cleans) (id : Id) (convention : Convention)
  (mark : Mark)

include h

namespace FlavorRules.Cleans

theorem writeName_eq : writeName flavor id convention =
    flavor.sanitizeName (id.conventionName convention).toList := by
  rw [writeName, h.last, if_neg Bool.false_ne_true]

theorem unreserved_tag {tag : List Char} (htag : tag ∈ mark.tags flavor id convention) :
    Unreserved tag := by
  have hstatistic (s : Statistic) : Unreserved (statisticTag flavor s) := by
    have hkey : Unreserved "statistic".toList := by decide
    exact (hkey.append h.separator).append (unreserved_statistic s)
  exact mark.forall_tags hstatistic h.tag id convention tag htag

/-- Before the value there is no blank and no colon. -/
theorem front_ok {c : Char}
    (hc : c ∈ writeName flavor id convention ++ tagText flavor (mark.tags flavor id convention)) :
    Text.isBlank c = false ∧ c ≠ ':' := by
  have hclean {s : List Char} (hs : Unreserved s) (hc : c ∈ s) :
      Text.isBlank c = false ∧ c ≠ ':' := by
    refine ⟨hs.isBlank_eq_false hc, ?_⟩
    rintro rfl
    exact hs.not_mem (by decide) hc
  rcases List.mem_append.1 hc with hc | hc
  · rw [h.writeName_eq] at hc
    exact hclean (h.name _) hc
  · unfold tagText at hc
    split at hc
    · exact absurd hc List.not_mem_nil
    · rcases List.mem_append.1 hc with hc | hc
      · exact h.preamble c hc
      · by_cases hcomma : c = ','
        · subst hcomma
          decide
        · obtain ⟨tag, htag, hc⟩ := List.mem_flatten.1 ((Text.mem_join hcomma).1 hc)
          exact hclean (h.unreserved_tag id convention mark htag) hc

theorem cut_line (places : Nat → Convention) (queries : List NamingCache.Query) (serial : Nat)
    (amount : Float) (measured : Statistic) :
    let line := (mark.line flavor (historyOf flavor places id queries) ⟨serial, places serial⟩
      amount (typeOf measured)).toList
    (∀ c ∈ line, Text.isBlank c = false) ∧
      Text.cut ':' line =
        [writeName flavor id (places serial) ++
            tagText flavor (mark.tags flavor id (places serial)),
          Decimal.plain.characters amount ++ ['|', typeOf measured]] := by
  intro line
  let front := writeName flavor id (places serial) ++
    tagText flavor (mark.tags flavor id (places serial))
  let value := Decimal.plain.characters amount ++ ['|', typeOf measured]
  have hvalue : Unreserved value := by
    refine (unreserved_of_numeric (Decimal.numeric_characters_plain amount)).append ?_
    cases measured <;> decide
  have hline : line = front ++ ':' :: value := by
    have hparts := mark.toList_line flavor places id queries serial amount (typeOf measured)
    rw [compose, h.layout] at hparts
    simpa [front, value] using hparts
  have hfront : ∀ c ∈ front, Text.isBlank c = false ∧ c ≠ ':' :=
    fun c hc => h.front_ok id (places serial) mark hc
  constructor
  · intro c hc
    rw [hline] at hc
    rcases List.mem_append.1 hc with hc | hc
    · exact (hfront c hc).1
    · rcases List.mem_cons.1 hc with rfl | hc
      · decide
      · exact hvalue.isBlank_eq_false hc
  · have hcolon : ':' ∉ front := fun hc => (hfront ':' hc).2 rfl
    rw [hline, Text.cut_append hcolon, Text.cut_of_not_mem (hvalue.not_mem (by decide))]

end FlavorRules.Cleans

end Cleans

/-! ## Telegraf and Sysdig -/

/-- The tags of a line are joined by commas that none of them holds. -/
theorem FlavorRules.Cleans.cut_tags {flavor : FlavorRules} (h : flavor.Cleans) (id : Id)
    (convention : Convention) {mark : Mark} (hne : mark.tags flavor id convention ≠ []) :
    Text.cut ',' (Text.join [','] (mark.tags flavor id convention)) =
      mark.tags flavor id convention :=
  Text.cut_join hne fun _ htag => (h.unreserved_tag id convention mark htag).not_mem (by decide)

theorem cut_telegraf (id : Id) (convention : Convention) (mark : Mark) :
    let flavor := Flavor.telegraf.rules
    let tags := mark.tags flavor id convention
    Text.cut ',' (writeName flavor id convention ++ tagText flavor tags) =
      writeName flavor id convention :: tags := by
  intro flavor tags
  have hname : ',' ∉ writeName flavor id convention := by
    rw [cleans_telegraf.writeName_eq]
    exact (cleans_telegraf.name _).not_mem (by decide)
  by_cases hempty : tags = []
  · rw [tagText, if_pos hempty, List.append_nil, Text.cut_of_not_mem hname, hempty]
  · have hpreamble : flavor.preamble = [','] := rfl
    rw [tagText, if_neg hempty, hpreamble, List.singleton_append, Text.cut_append hname,
      cleans_telegraf.cut_tags id convention hempty]

/-- A Sysdig tag holds no hash sign, and one equals sign between its key and its value. -/
theorem sysdig_tags (id : Id) (convention : Convention) (mark : Mark) :
    ∀ tag ∈ mark.tags Flavor.sysdig.rules id convention, '#' ∉ tag ∧ tag.count '=' = 1 := by
  have hparts {key value : List Char} (hkey : '#' ∉ key ∧ '=' ∉ key)
      (hvalue : '#' ∉ value ∧ '=' ∉ value) :
      '#' ∉ key ++ ['='] ++ value ∧ (key ++ ['='] ++ value).count '=' = 1 := by
    constructor
    · simp [hkey.1, hvalue.1]
    · simp [List.count_eq_zero.2 hkey.2, List.count_eq_zero.2 hvalue.2]
  have hsanitized (s : List Char) : '#' ∉ sysdigSanitize s ∧ '=' ∉ sysdigSanitize s :=
    ⟨not_mem_sysdigSanitize (.inl rfl) s, not_mem_sysdigSanitize (.inr rfl) s⟩
  have hname (s : Statistic) : '#' ∉ s.name.toList ∧ '=' ∉ s.name.toList := by
    cases s <;> decide
  apply Mark.forall_tags
  · intro s
    exact hparts (by decide) (hname s)
  · intro key value
    exact hparts (hsanitized key) (hsanitized value)

theorem cut_sysdig (id : Id) (convention : Convention) (mark : Mark) :
    let flavor := Flavor.sysdig.rules
    let name := writeName flavor id convention
    let tags := mark.tags flavor id convention
    Text.cut '#' (name ++ tagText flavor tags) =
      if tags = [] then [name] else [name, Text.join [','] tags] := by
  intro flavor name tags
  have hname : '#' ∉ name := by
    have hclean : name = sysdigSanitize (id.conventionName convention).toList :=
      cleans_sysdig.writeName_eq id convention
    rw [hclean]
    exact not_mem_sysdigSanitize (.inl rfl) _
  by_cases hempty : tags = []
  · rw [tagText, if_pos hempty, if_pos hempty, List.append_nil, Text.cut_of_not_mem hname]
  · have hpreamble : flavor.preamble = ['#'] := rfl
    have hblock : '#' ∉ Text.join [','] tags := by
      intro hmem
      obtain ⟨tag, htag, hmem⟩ := List.mem_flatten.1 ((Text.mem_join (by decide)).1 hmem)
      exact (sysdig_tags id convention mark tag htag).1 hmem
    rw [tagText, if_neg hempty, if_neg hempty, hpreamble, List.singleton_append,
      Text.cut_append hname, Text.cut_of_not_mem hblock]

/-- The tags of a line in a flavor that separates keys from values by an equals sign. -/
theorem tags_eq {flavor : Flavor} (h : flavor = .telegraf ∨ flavor = .sysdig) (id : Id)
    (convention : Convention) (mark : Mark) :
    mark.tags flavor.rules id convention =
      (mark.statistic?.map fun s => "statistic=".toList ++ s.name.toList).toList ++
        (id.tags.toList.map fun t => flavor.rules.formatTag (convention.tagKey t.1).toList
          (convention.tagValue t.2).toList) ++
        (mark.bound?.map fun upper => "le=".toList ++
          flavor.rules.sanitizeName (Decimal.plain.characters upper)).toList := by
  have hmeter : writeTags flavor.rules id convention =
      id.tags.toList.map fun t => flavor.rules.formatTag (convention.tagKey t.1).toList
        (convention.tagValue t.2).toList :=
    List.map_map
  have hstatistic : statisticTag flavor.rules =
      fun s => "statistic=".toList ++ s.name.toList := by
    funext s
    rcases h with rfl | rfl <;> rfl
  have hbound : boundTag flavor.rules =
      fun upper => "le=".toList ++ flavor.rules.sanitizeName (Decimal.plain.characters upper) := by
    funext upper
    rcases h with rfl | rfl <;> rfl
  rw [Mark.tags, hmeter, hstatistic, hbound]

/-- Whatever a meter is called and whatever the convention makes of it, a line of Telegraf or Sysdig
holds no blank and one colon, between the front and the value. The front is cut at commas into the
name and the tags, or at a hash sign and commas; the tags are one for a statistic, one for each tag
of the meter and one for an upper bound. In Sysdig each of them holds one equals sign. -/
theorem cut_lines (places : Nat → Convention) (id : Id) (queries : List NamingCache.Query)
    (serial : Nat) (mark : Mark) (amount : Float) (measured : Statistic) :
    let convention := places serial
    let line := fun flavor : Flavor =>
      (mark.line flavor.rules (historyOf flavor.rules places id queries) ⟨serial, convention⟩
        amount (typeOf measured)).toList
    let value := Decimal.plain.characters amount ++ ['|', typeOf measured]
    let name := fun flavor : Flavor =>
      flavor.rules.sanitizeName (id.conventionName convention).toList
    let tags := fun flavor : Flavor =>
      (mark.statistic?.map fun s => "statistic=".toList ++ s.name.toList).toList ++
        (id.tags.toList.map fun t => flavor.rules.formatTag (convention.tagKey t.1).toList
          (convention.tagValue t.2).toList) ++
        (mark.bound?.map fun upper => "le=".toList ++
          flavor.rules.sanitizeName (Decimal.plain.characters upper)).toList
    (∀ flavor ∈ [Flavor.telegraf, .sysdig], (∀ c ∈ line flavor, Text.isBlank c = false) ∧
      (line flavor).count ':' = 1) ∧
    (∃ front, line .telegraf = front ++ ':' :: value ∧
      Text.cut ',' front = name .telegraf :: tags .telegraf) ∧
    (∃ front, line .sysdig = front ++ ':' :: value ∧
      (tags .sysdig = [] → front = name .sysdig) ∧
      (tags .sysdig ≠ [] → ∃ block, Text.cut '#' front = [name .sysdig, block] ∧
        Text.cut ',' block = tags .sysdig)) ∧
    ∀ tag ∈ tags .sysdig, tag.count '=' = 1 := by
  intro convention line value name tags
  have hname {flavor : Flavor} (h : flavor.rules.Cleans) :
      writeName flavor.rules id convention = name flavor :=
    h.writeName_eq id convention
  have htags {flavor : Flavor} (h : flavor = .telegraf ∨ flavor = .sysdig) :
      mark.tags flavor.rules id convention = tags flavor :=
    tags_eq h id convention mark
  have hline {flavor : Flavor} (h : flavor.rules.Cleans) :
      (∀ c ∈ line flavor, Text.isBlank c = false) ∧ (line flavor).count ':' = 1 ∧
        line flavor = writeName flavor.rules id convention ++
          tagText flavor.rules (mark.tags flavor.rules id convention) ++ ':' :: value := by
    obtain ⟨hblank, hcut⟩ := h.cut_line id mark places queries serial amount measured
    have hlength := Text.length_cut ':' (line flavor)
    have hjoin := Text.join_cut ':' (line flavor)
    rw [hcut] at hlength hjoin
    refine ⟨hblank, Nat.succ.inj hlength.symm, ?_⟩
    rw [← hjoin]
    simp [Text.join, value, convention]
  have htelegraf := hline cleans_telegraf
  have hsysdig := hline cleans_sysdig
  refine ⟨?_, ⟨_, htelegraf.2.2, ?_⟩, ⟨_, hsysdig.2.2, ?_, ?_⟩, ?_⟩
  · intro flavor hflavor
    rcases List.mem_pair.1 hflavor with rfl | rfl
    · exact ⟨htelegraf.1, htelegraf.2.1⟩
    · exact ⟨hsysdig.1, hsysdig.2.1⟩
  · rw [cut_telegraf, hname cleans_telegraf, htags (.inl rfl)]
  · intro hempty
    rw [htags (.inr rfl), tagText, if_pos hempty, List.append_nil, hname cleans_sysdig]
  · intro hne
    rw [← htags (.inr rfl)] at hne ⊢
    refine ⟨_, ?_, cleans_sysdig.cut_tags id convention hne⟩
    rw [cut_sysdig, if_neg hne, hname cleans_sysdig]
  · intro tag htag
    rw [← htags (.inr rfl)] at htag
    exact (sysdig_tags id convention mark tag htag).2

end Telemetry.Statsd
