import Telemetry.Proofs.Naming.Segments
import Telemetry.Proofs.Statsd.Packing
import Telemetry.Proofs.Statsd.Parts

/-!
# What Datadog lines let through

The Datadog flavor replaces colons, and nothing else that separates the parts of a line or the lines
of a packet. A comma in a key or a value is therefore found in the tags of the line, and a newline
in a name, a key or a value is found in the line. This file says exactly how many pieces there are.

## Main definitions

- `Untouched` — a character that neither the convention nor the flavor writes or replaces
- `keysAndValues` — where the tags of a meter get their characters from

## Main statements

- `count_tags` — an untouched character is as frequent in the tags as in the keys and values
- `datadog_pieces` — the pieces of a line, of its tags and of a packet
-/

namespace Telemetry

namespace Statsd

/-! ## Characters that pass -/

/-- A character that the dot convention and the Datadog flavor neither write nor replace. -/
def Untouched (c : Char) : Prop := c ≠ '.' ∧ c ≠ ':' ∧ c ≠ '_' ∧ c ≠ 'm'

instance : DecidablePred Untouched := fun _ => inferInstanceAs (Decidable (_ ∧ _))

section Untouched

variable {c : Char} (hc : Untouched c)

include hc

theorem count_datadogName (name : List Char) : (datadogName name).count c = name.count c := by
  obtain ⟨hdot, hcolon, hunderscore, hm⟩ := hc
  have hclean : (name.map fun x => if x = ':' then '_' else x).count c = name.count c := by
    induction name with
    | nil => rfl
    | cons x rest ih =>
      rw [List.map_cons, List.count_cons, List.count_cons, ih]
      by_cases hx : x = ':'
      · simp [hx, hcolon.symm, hunderscore.symm]
      · rw [if_neg hx]
  cases name with
  | nil => simp [datadogName, hdot.symm, hm.symm]
  | cons x rest =>
    simp only [datadogName]
    split
    · exact hclean
    · rw [List.count_cons_of_ne hm.symm, List.count_cons_of_ne hdot.symm]
      exact hclean

theorem count_replaceLastColon (value : List Char) :
    (replaceLastColon value).count c = value.count c := by
  obtain ⟨-, hcolon, hunderscore, -⟩ := hc
  unfold replaceLastColon
  split
  · next hlast =>
    obtain ⟨front, rfl⟩ := List.getLast?_eq_some_iff.1 hlast
    simp [hcolon.symm, hunderscore.symm]
  · rfl

theorem count_datadogTag (key value : List Char) :
    (datadogTag key value).count c = key.count c + value.count c := by
  have hcolon : c ≠ ':' := hc.2.1
  unfold datadogTag
  split
  · next hempty => simp [count_datadogName hc, List.isEmpty_iff.1 hempty]
  · simp [count_datadogName hc, count_replaceLastColon hc, hcolon.symm]

end Untouched

/-! ## Datadog lines -/

/-- The keys and values of the tags of a meter, one behind another. -/
def keysAndValues (id : Id) : List Char :=
  id.tags.toList.flatMap fun t => t.1.toList ++ t.2.toList

theorem count_writeName (hc : Untouched c) (id : Id) :
    (writeName Flavor.datadog.rules id Convention.dot).count c = id.name.toList.count c := by
  have hname : writeName Flavor.datadog.rules id Convention.dot =
      joined '.' (datadogName id.name.toList) := by
    simp [writeName, Flavor.rules, Convention.dot, Convention.ofCharacters, Convention.ofName]
  rw [hname, count_joined hc.1 hc.1, count_datadogName hc]

theorem count_writeTags (hc : Untouched c) (id : Id) :
    (writeTags Flavor.datadog.rules id Convention.dot).flatten.count c =
      (keysAndValues id).count c := by
  have htag (t : String × String) :
      (datadogTag (Convention.dot.tagKey t.1).toList (Convention.dot.tagValue t.2).toList).count c =
        (t.1.toList ++ t.2.toList).count c := by
    have hkey : (Convention.dot.tagKey t.1).toList = joined '.' t.1.toList := String.toList_ofList
    rw [count_datadogTag hc, hkey, count_joined hc.1 hc.1, List.count_append]
    rfl
  rw [writeTags, Id.conventionTags, keysAndValues]
  induction id.tags.toList with
  | nil => rfl
  | cons t rest ih =>
    rw [List.map_cons, List.map_cons, List.flatten_cons, List.count_append, ih, List.flatMap_cons,
      List.count_append, ← htag]
    rfl

theorem count_statisticTag {c : Char} (h : c = ',' ∨ c = '\n') (s : Statistic) :
    (statisticTag Flavor.datadog.rules s).count c = 0 := by
  rcases h with rfl | rfl
  · cases s <;> decide
  · cases s <;> decide

theorem count_number {c : Char} (h : c = ',' ∨ c = '\n') (x : Float) :
    (Decimal.plain.characters x).count c = 0 := by
  rw [List.count_eq_zero]
  intro hmem
  have hnumeric := Decimal.numeric_iff.1 (Decimal.numeric_characters_plain x) c hmem
  rcases h with rfl | rfl
  · exact absurd hnumeric (by decide)
  · exact absurd hnumeric (by decide)

theorem untouched_of {c : Char} (h : c = ',' ∨ c = '\n') : Untouched c := by
  rcases h with rfl | rfl <;> decide

/-- A comma or a newline among the tags of a line comes from a key or a value. -/
theorem count_tags {c : Char} (h : c = ',' ∨ c = '\n') (id : Id) (mark : Mark) :
    (mark.tags Flavor.datadog.rules id Convention.dot).flatten.count c =
      (keysAndValues id).count c := by
  have hc := untouched_of h
  cases mark with
  | none => rw [Mark.tags_none, count_writeTags hc]
  | statistic s =>
    rw [Mark.tags_statistic, List.flatten_cons, List.count_append, count_statisticTag h,
      count_writeTags hc, Nat.zero_add]
  | bound upper =>
    have hbound : (boundTag Flavor.datadog.rules upper).count c = 0 := by
      have hle : "le".toList.count c = 0 := by rcases h with rfl | rfl <;> decide
      have htag := count_datadogTag hc "le".toList (Decimal.plain.characters upper)
      rw [hle, count_number h] at htag
      exact htag
    rw [Mark.tags_bound, List.flatten_append, List.count_append, count_writeTags hc,
      List.flatten_singleton, hbound, Nat.add_zero]

theorem toList_packetBody (lines : List String) :
    (packetBody lines).toList = Text.join ['\n'] (lines.map String.toList) :=
  Text.toList_intercalate "\n" lines

/-- A line of the Datadog flavor in its default convention, with or without a statistic or an upper
bound. The block of tags falls into one piece for each tag and one for each comma in a key or value,
and the line holds the newlines of the name, the keys and the values; so a packet falls into one
line for each of its records and one for each newline in them. -/
theorem datadog_pieces (places : Nat → Convention) (id : Id) (queries : List NamingCache.Query)
    (serial : Nat) (hplace : places serial = Flavor.datadog.convention) (mark : Mark)
    (amount : Float) (measured : Statistic) :
    let flavor := Flavor.datadog.rules
    let line := (mark.line flavor (historyOf flavor places id queries) ⟨serial, places serial⟩
      amount (typeOf measured)).toList
    let tags := mark.tags flavor id (places serial)
    let block := Text.join [','] tags
    line = writeName flavor id (places serial) ++ ':' :: (Decimal.plain.characters amount ++
        ['|', typeOf measured] ++ if tags = [] then [] else ['|', '#'] ++ block) ∧
      (tags ≠ [] →
        (Text.cut ',' block).length = tags.length + (keysAndValues id).count ',' ∧
        (Text.cut ',' block = tags ↔ ',' ∉ keysAndValues id)) ∧
      line.count '\n' = (id.name.toList ++ keysAndValues id).count '\n' ∧
      ∀ (config : Config) (lines : List String), ∀ packet ∈ pack config.maxPacketLength lines,
        let body := (payload config packet).body.toList
        let written := packet.map String.toList
        (Text.cut '\n' body).length =
            (payload config packet).records + written.flatten.count '\n' ∧
          (Text.cut '\n' body = written ↔ ∀ line ∈ written, '\n' ∉ line) := by
  intro flavor line tags block
  have hline : line = writeName flavor id (places serial) ++ ':' ::
      (Decimal.plain.characters amount ++ ['|', typeOf measured] ++
        if tags = [] then [] else ['|', '#'] ++ block) := by
    have hparts := mark.toList_line flavor places id queries serial amount (typeOf measured)
    have hlayout : flavor.layout = .tagsAfterValue := rfl
    have htext : tagText flavor tags = if tags = [] then [] else ['|', '#'] ++ block := rfl
    rw [compose, hlayout, htext] at hparts
    simpa only [List.append_assoc, List.cons_append, List.nil_append] using hparts
  have hcount {c : Char} (hc : c = ',' ∨ c = '\n') :
      tags.flatten.count c = (keysAndValues id).count c := by
    have htags := count_tags hc id mark
    rwa [← Flavor.convention, ← hplace] at htags
  refine ⟨hline, fun hne => ?_, ?_, fun config lines packet hpacket => ?_⟩
  · constructor
    · rw [Text.length_cut_join hne, hcount (.inl rfl)]
    · rw [Text.cut_join_iff hne, ← List.count_eq_zero, hcount (.inl rfl), List.count_eq_zero]
  · have hname := count_writeName (untouched_of (.inr rfl : '\n' = ',' ∨ '\n' = '\n')) id
    rw [← Flavor.convention, ← hplace] at hname
    have hamount := count_number (.inr rfl : '\n' = ',' ∨ '\n' = '\n') amount
    have htype : ['|', typeOf measured].count '\n' = 0 := by cases measured <;> decide
    have hblock : (if tags = [] then [] else ['|', '#'] ++ block).count '\n' =
        (keysAndValues id).count '\n' := by
      rw [← hcount (.inr rfl)]
      split
      · next hempty => rw [hempty]; rfl
      · rw [List.count_append, Text.count_join (by decide)]
        exact Nat.zero_add _
    rw [hline, List.count_append, hname, List.count_cons_of_ne (by decide), List.count_append,
      List.count_append, hamount, htype, hblock, List.count_append]
    omega
  · intro body written
    have hne : written ≠ [] := by
      have hpacket : packet ≠ [] := ne_nil_of_mem_packInto hpacket
      simpa [written] using hpacket
    have hbody : body = Text.join ['\n'] written := toList_packetBody packet
    have hrecords : (payload config packet).records = written.length :=
      (List.length_map _).symm
    rw [hbody, hrecords]
    refine ⟨Text.length_cut_join hne, (Text.cut_join_iff hne).trans ?_⟩
    simp only [List.mem_flatten, not_exists, not_and]

/-- A newline in a name makes two lines of one, and a comma in a value two tags. -/
theorem datadog_line_breaks :
    let id := (Id.new "a\nb" .counter).withTag "k" "x,y"
    let places := fun _ : Nat => Flavor.datadog.convention
    let flavor := Flavor.datadog.rules
    let line := Mark.none.line flavor (historyOf flavor places id []) ⟨0, places 0⟩ 1 (typeOf .count)
    let tags := Mark.none.tags flavor id (places 0)
    line = "a\nb:1|c|#k:x,y" ∧ '\n' ∈ line.toList ∧
      tags.length = 1 ∧ (Text.cut ',' (Text.join [','] tags)).length = 2 ∧
      (payload default [line]).records = 1 ∧
      (Text.cut '\n' (payload default [line]).body.toList).length = 2 := by
  intro id places flavor line tags
  have hline : line = "a\nb:1|c|#k:x,y" := by decide +kernel
  rw [hline]
  decide

/-- The line of a meter without commas and newlines keeps its structure. -/
theorem datadog_pieces_of_requests :
    let id := (Id.new "requests" .timer).withTag "host" "a b"
    let places := fun _ : Nat => Flavor.datadog.convention
    let flavor := Flavor.datadog.rules
    let line := (Mark.statistic .count).line flavor (historyOf flavor places id [.fragments 3])
      ⟨0, places 0⟩ 2 (typeOf .count)
    let tags := (Mark.statistic .count).tags flavor id (places 0)
    '\n' ∉ line.toList ∧ tags ≠ [] ∧ Text.cut ',' (Text.join [','] tags) = tags := by
  intro id places flavor line tags
  have hpieces := datadog_pieces places id [.fragments 3] 0 rfl (.statistic .count) 2 .count
  obtain ⟨-, htags, hnewlines, -⟩ := hpieces
  have hne : tags ≠ [] := by simp [tags]
  refine ⟨?_, hne, (htags hne).2.2 (by decide)⟩
  rw [← List.count_eq_zero]
  exact hnewlines.trans (by decide)

end Statsd

end Telemetry
