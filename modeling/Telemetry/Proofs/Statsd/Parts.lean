import Telemetry.Proofs.Decimal.Written
import Telemetry.Proofs.Naming.Cache
import Telemetry.Statsd.Backend

/-!
# The parts of a StatsD line

A line is composed of a name, an amount, a type and tags. Its tags are those of the meter, with one
more in front for a statistic or one more behind for the upper bound of a bucket. What a cache has
been asked for before plays no part.

## Main definitions

- `Mark` — the one tag of a line that the meter does not have
- `Mark.tags`, `Mark.line` — the tags of a line, and the line that a cache writes
- `historyOf` — the cache of a meter after any calls

## Main statements

- `Mark.toList_line` — a line in its parts, after any calls
-/

namespace Telemetry.Statsd

/-- What a line says besides name, amount, type and the tags of the meter. -/
inductive Mark
  | none
  | statistic (statistic : Statistic)
  | bound (upper : Float)

namespace Mark

def statistic? : Mark → Option Statistic
  | statistic s => some s
  | _ => Option.none

def bound? : Mark → Option Float
  | bound upper => some upper
  | _ => Option.none

/-- All tags of a line, one after another. -/
def tags (flavor : FlavorRules) (id : Id) (convention : Convention) (mark : Mark) :
    List (List Char) :=
  (mark.statistic?.map (statisticTag flavor)).toList ++ writeTags flavor id convention ++
    (mark.bound?.map (boundTag flavor)).toList

@[simp] theorem tags_none (flavor : FlavorRules) (id : Id) (convention : Convention) :
    none.tags flavor id convention = writeTags flavor id convention :=
  List.append_nil _

@[simp] theorem tags_statistic (flavor : FlavorRules) (id : Id) (convention : Convention)
    (s : Statistic) :
    (statistic s).tags flavor id convention =
      statisticTag flavor s :: writeTags flavor id convention :=
  List.append_nil _

@[simp] theorem tags_bound (flavor : FlavorRules) (id : Id) (convention : Convention)
    (upper : Float) :
    (bound upper).tags flavor id convention =
      writeTags flavor id convention ++ [boundTag flavor upper] :=
  rfl

/-- What is true of the tags that a flavor makes is true of all tags of a line. -/
theorem forall_tags {P : List Char → Prop} {flavor : FlavorRules}
    (hstatistic : ∀ s, P (statisticTag flavor s)) (htag : ∀ key value, P (flavor.formatTag key value))
    (id : Id) (convention : Convention) (mark : Mark) :
    ∀ tag ∈ mark.tags flavor id convention, P tag := by
  have hmeter : ∀ tag ∈ writeTags flavor id convention, P tag := by
    intro tag hmem
    obtain ⟨t, -, rfl⟩ := List.mem_map.1 hmem
    exact htag _ _
  cases mark with
  | none =>
    rw [tags_none]
    exact hmeter
  | statistic s =>
    rw [tags_statistic]
    exact List.forall_mem_cons.2 ⟨hstatistic s, hmeter⟩
  | bound upper =>
    rw [tags_bound]
    exact List.forall_mem_append.2 ⟨hmeter, List.forall_mem_singleton.2 (htag _ _)⟩

/-- The line that a cache writes. -/
def line (flavor : FlavorRules) (cache : NamingCache Fragments) (installed : Installed)
    (amount : Float) (type : Char) : Mark → String
  | none => (Statsd.line flavor cache installed amount .none type).1
  | statistic s => (Statsd.line flavor cache installed amount (some s) type).1
  | bound upper => (bucketLine flavor cache installed amount upper type).1

end Mark

/-- The cache of a meter after calls with conventions and statistics of any kind. -/
def historyOf (flavor : FlavorRules) (places : Nat → Convention) (id : Id)
    (queries : List NamingCache.Query) : NamingCache Fragments :=
  (NamingCache.serve (renderRules flavor) places (.new id) queries).cache

/-- Tags as they stand in a line: nothing at all, or a preamble and the tags between commas. -/
def tagText (flavor : FlavorRules) (tags : List (List Char)) : List Char :=
  if tags = [] then [] else flavor.preamble ++ Text.join [','] tags

theorem tagBlock_eq_tagText (flavor : FlavorRules) (statistic : Option Statistic)
    (tags extra : Option (List Char)) :
    tagBlock flavor statistic tags extra =
      tagText flavor ((statistic.map (statisticTag flavor)).toList ++ tags.toList ++
        extra.toList) := by
  unfold tagBlock
  generalize (statistic.map (statisticTag flavor)).toList ++ tags.toList ++ extra.toList = parts
  cases parts <;> rfl

/-- The tags of a meter are joined before the others are added, but that makes no difference. -/
theorem tagBlock_render (flavor : FlavorRules) (id : Id) (convention : Convention)
    (statistic : Option Statistic) (extra : Option (List Char)) :
    tagBlock flavor statistic ((renderRules flavor).render id convention).tags extra =
      tagText flavor ((statistic.map (statisticTag flavor)).toList ++ writeTags flavor id convention ++
        extra.toList) := by
  rw [tagBlock_eq_tagText]
  by_cases hempty : writeTags flavor id convention = []
  · have hnone : ((renderRules flavor).render id convention).tags = none := by
      simp [renderRules, hempty]
    rw [hnone, hempty]
    rfl
  · have hsome : ((renderRules flavor).render id convention).tags =
        some (Text.join [','] (writeTags flavor id convention)) := by
      simp [renderRules, hempty]
    have hjoined := Text.join_splice [','] (statistic.map (statisticTag flavor)).toList
      extra.toList hempty
    rw [hsome, Option.toList_some, List.append_assoc, List.singleton_append, tagText, tagText,
      if_neg (by simp), if_neg (by simp [hempty]), hjoined]

theorem faithful_historyOf (flavor : FlavorRules) (places : Nat → Convention) (id : Id)
    (queries : List NamingCache.Query) :
    (historyOf flavor places id queries).id = id ∧
      (historyOf flavor places id queries).Faithful (renderRules flavor) places := by
  have hnew : (⟨[], .new id, Work.none⟩ : NamingCache.Served Fragments).Answers
      (renderRules flavor) places id [] :=
    ⟨rfl, rfl, .new _ places id⟩
  have hserved := hnew.foldl queries
  exact ⟨hserved.id, hserved.faithful⟩

section Lines

variable {flavor : FlavorRules} {places : Nat → Convention} {cache : NamingCache Fragments}
  {installed : Installed}

theorem toList_line (h : cache.Faithful (renderRules flavor) places)
    (hplace : installed.At places) (amount : Float) (statistic : Option Statistic) (type : Char) :
    (line flavor cache installed amount statistic type).1.toList =
      compose flavor (writeName flavor cache.id installed.convention)
        (tagText flavor ((statistic.map (statisticTag flavor)).toList ++
          writeTags flavor cache.id installed.convention)) amount type := by
  obtain ⟨hfragments, hid, hrendered⟩ := h.render hplace
  obtain ⟨htext, -, -⟩ := hrendered.text hplace statistic
  rw [hid] at htext
  have htags : (((cache.render (renderRules flavor) installed).2.1.text (renderRules flavor)
      installed statistic).1).toList =
        tagText flavor ((statistic.map (statisticTag flavor)).toList ++
          writeTags flavor cache.id installed.convention) := by
    have hblock := tagBlock_render flavor cache.id installed.convention statistic none
    rw [Option.toList_none, List.append_nil] at hblock
    rw [htext, ← hblock]
    exact String.toList_ofList
  simp only [line]
  rw [String.toList_ofList, hfragments, htags]
  rfl

theorem toList_bucketLine (h : cache.Faithful (renderRules flavor) places)
    (hplace : installed.At places) (amount bound : Float) (type : Char) :
    (bucketLine flavor cache installed amount bound type).1.toList =
      compose flavor (writeName flavor cache.id installed.convention)
        (tagText flavor (writeTags flavor cache.id installed.convention ++
          [boundTag flavor bound])) amount type := by
  obtain ⟨hfragments, -, -⟩ := h.render hplace
  have hblock := tagBlock_render flavor cache.id installed.convention none
    (some (boundTag flavor bound))
  simp only [bucketLine]
  rw [String.toList_ofList, hfragments, hblock]
  rfl

end Lines

/-- A line is composed of the name, the tags, the amount and the type, whatever the cache has been
asked for before. -/
theorem Mark.toList_line (flavor : FlavorRules) (places : Nat → Convention) (id : Id)
    (queries : List NamingCache.Query) (serial : Nat) (mark : Mark) (amount : Float) (type : Char) :
    (mark.line flavor (historyOf flavor places id queries) ⟨serial, places serial⟩ amount
        type).toList =
      compose flavor (writeName flavor id (places serial))
        (tagText flavor (mark.tags flavor id (places serial))) amount type := by
  obtain ⟨hid, hfaithful⟩ := faithful_historyOf flavor places id queries
  have hplace : Installed.At places ⟨serial, places serial⟩ := rfl
  cases mark with
  | none =>
    have hline := Statsd.toList_line hfaithful hplace amount .none type
    rw [hid] at hline
    rw [tags_none]
    exact hline
  | statistic s =>
    have hline := Statsd.toList_line hfaithful hplace amount (some s) type
    rw [hid] at hline
    rw [tags_statistic]
    exact hline
  | bound upper =>
    have hline := toList_bucketLine hfaithful hplace amount upper type
    rw [hid] at hline
    rw [tags_bound]
    exact hline

end Telemetry.Statsd
