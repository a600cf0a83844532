import Mathlib.Logic.Relation
import Telemetry.NewRelic.Naming

/-!
# Names by their segments

Most conventions see a name as the list of its segments. A dot at the start of a name, at its end or
beside another dot only makes an empty piece, so it never matters to them. Leaving out all such dots
is what the dot convention does: its output is the barest of the names that are written alike.

## Main definitions

- `DropsDot` — one dot that makes no difference is left out
- `Convention.WritesAlike` — two names that a convention does not tell apart

## Main statements

- `segments_eq_of_drops` — leaving such dots out keeps the segments
- `drops_joined` — joining segments with dots only leaves such dots out
- `segments_eq_iff` — two names have the same segments if they come down to the same name
- `joined_joined` — joined segments are joined once
- `conventions_see_segments` — what the conventions see of a name
-/

namespace Telemetry

open Relation (ReflTransGen Join)

/-! ## Dots that make no difference -/

/-- A name without one of its dots, which was at its start, at its end or beside another dot. -/
inductive DropsDot : List Char → List Char → Prop
  | leading (name : List Char) : DropsDot ('.' :: name) name
  | trailing (name : List Char) : DropsDot (name ++ ['.']) name
  | doubled (front back : List Char) :
      DropsDot (front ++ '.' :: '.' :: back) (front ++ '.' :: back)

@[simp]
theorem segments_nil : segments [] = [] := rfl

/-- The segments before a dot and those behind it. -/
theorem segments_append (name rest : List Char) :
    segments (name ++ '.' :: rest) = segments name ++ segments rest := by
  rw [segments, Text.cut_append_separator, List.filter_append]
  rfl

theorem segments_cons_dot (name : List Char) : segments ('.' :: name) = segments name :=
  segments_append [] name

theorem DropsDot.segments_eq {name other : List Char} (h : DropsDot name other) :
    segments name = segments other := by
  cases h with
  | leading => exact segments_cons_dot other
  | trailing => rw [segments_append, segments_nil, List.append_nil]
  | doubled front back => rw [segments_append, segments_append, segments_cons_dot]

theorem segments_eq_of_drops {name other : List Char} (h : ReflTransGen DropsDot name other) :
    segments name = segments other := by
  induction h with
  | refl => rfl
  | tail _ hdrop ih => exact ih.trans hdrop.segments_eq

/-- What is left out of a name is left out behind a dot as well: a dot at the start of the name is
then beside that dot. -/
theorem DropsDot.behind {name other : List Char} (h : DropsDot name other) (front : List Char) :
    DropsDot (front ++ '.' :: name) (front ++ '.' :: other) := by
  cases h with
  | leading => exact .doubled front other
  | trailing =>
    rw [← List.cons_append, ← List.append_assoc]
    exact .trailing _
  | doubled middle back =>
    have h := DropsDot.doubled (front ++ '.' :: middle) back
    simpa only [List.append_assoc, List.cons_append] using h

/-- Empty pieces are joined by dots that make no difference. -/
theorem drops_join (pieces : List (List Char)) :
    ReflTransGen DropsDot (Text.join ['.'] pieces)
      (Text.join ['.'] (pieces.filter fun s => !s.isEmpty)) := by
  induction pieces with
  | nil => exact .refl
  | cons piece pieces ih =>
    by_cases hpieces : pieces = []
    · subst hpieces
      cases piece <;> exact .refl
    · rw [Text.join_cons _ _ hpieces, List.append_assoc, List.singleton_append]
      cases piece with
      | nil => exact .head (.leading _) ih
      | cons c rest =>
        have hbehind := ih.lift (fun name => (c :: rest) ++ '.' :: name) fun _ _ h => h.behind _
        rw [List.filter_cons_of_pos rfl]
        by_cases hfiltered : pieces.filter (fun s => !s.isEmpty) = []
        · -- all that follows is left out, and then the dot in front of it is at the end
          rw [hfiltered] at hbehind ⊢
          exact hbehind.tail (.trailing _)
        · rw [Text.join_cons _ _ hfiltered, List.append_assoc, List.singleton_append]
          exact hbehind

/-- A name comes down to its segments with a dot between any two of them. -/
theorem drops_joined (name : List Char) : ReflTransGen DropsDot name (joined '.' name) := by
  have h := drops_join (Text.cut '.' name)
  rwa [Text.join_cut] at h

/-- Two names have the same segments if and only if they come down to the same name. -/
theorem segments_eq_iff {name other : List Char} :
    segments name = segments other ↔ Join (ReflTransGen DropsDot) name other := by
  constructor
  · intro h
    have hjoined : joined '.' name = joined '.' other := congrArg (Text.join ['.']) h
    exact ⟨joined '.' name, drops_joined name, hjoined ▸ drops_joined other⟩
  · rintro ⟨bare, hname, hother⟩
    exact (segments_eq_of_drops hname).trans (segments_eq_of_drops hother).symm

/-! ## Joined segments -/

theorem segments_joined (name : List Char) : segments (joined '.' name) = segments name :=
  (segments_eq_of_drops (drops_joined name)).symm

theorem dot_not_mem_of_mem_segments {name segment : List Char} (h : segment ∈ segments name) :
    '.' ∉ segment :=
  Text.not_mem_of_mem_cut (List.mem_filter.1 h).1

/-- Segments that are joined with dots are cut apart again, with no empty piece among them. -/
theorem cut_joined {name : List Char} (h : segments name ≠ []) :
    Text.cut '.' (joined '.' name) = segments name :=
  Text.cut_join h fun _ => dot_not_mem_of_mem_segments

/-- Only dots and separators are lost or gained when segments are joined. -/
theorem count_joined {c separator : Char} (hdot : c ≠ '.') (h : c ≠ separator) (name : List Char) :
    (joined separator name).count c = name.count c := by
  have hsegments : (segments name).flatten = (Text.cut '.' name).flatten :=
    List.flatten_filter_not_isEmpty
  have hname := Text.count_join hdot (Text.cut '.' name)
  rw [Text.join_cut] at hname
  rw [joined, Text.count_join h, hsegments, hname]

theorem joined_of_not_mem {separator : Char} {name : List Char} (h : '.' ∉ name) :
    joined separator name = name := by
  rw [joined, segments, Text.cut_of_not_mem h]
  cases name <;> rfl

theorem dot_not_mem_joined {separator : Char} (h : '.' ≠ separator) (name : List Char) :
    '.' ∉ joined separator name := by
  rw [joined, Text.mem_join h]
  intro hmem
  obtain ⟨segment, hsegment, hdot⟩ := List.mem_flatten.1 hmem
  exact dot_not_mem_of_mem_segments hsegment hdot

/-- Joining segments that have been joined changes nothing: with dots between them the segments are
the same, and with anything else between them they have become a single one. -/
theorem joined_joined (separator : Char) (name : List Char) :
    joined separator (joined separator name) = joined separator name := by
  by_cases h : '.' = separator
  · subst h
    exact congrArg (Text.join ['.']) (segments_joined name)
  · exact joined_of_not_mem (dot_not_mem_joined h name)

/-! ## Conventions -/

/-- A convention does not tell two names apart, neither as names of meters nor as tag keys. -/
structure Convention.WritesAlike (convention : Convention) (name other : String) : Prop where
  name_eq : ∀ kind unit, convention.name name kind unit = convention.name other kind unit
  tagKey_eq : convention.tagKey name = convention.tagKey other

theorem writesAlike_ofCharacters {outline : String} {write : List Char → List Char}
    {name other : String} (h : write name.toList = write other.toList) :
    (Convention.ofCharacters outline write).WritesAlike name other :=
  ⟨fun _ _ => congrArg String.ofList h, congrArg String.ofList h⟩

theorem camel_congr {name other : List Char} (h : segments name = segments other) :
    camel name = camel other := by
  unfold camel
  rw [h]

/-- Each of the conventions writes a name by its segments. -/
theorem writesAlike_of_segments_eq {convention : Convention}
    (h : convention ∈ [Convention.dot, .snakeCase, .slashes, .camelCase, .upperCamelCase,
      NewRelic.convention]) {name other : String}
    (hsegments : segments name.toList = segments other.toList) :
    convention.WritesAlike name other := by
  simp only [List.mem_cons, List.not_mem_nil, or_false] at h
  have hjoined (separator : Char) : joined separator name.toList = joined separator other.toList :=
    congrArg (Text.join [separator]) hsegments
  rcases h with rfl | rfl | rfl | rfl | rfl | rfl
  · exact writesAlike_ofCharacters (hjoined '.')
  · exact writesAlike_ofCharacters (hjoined '_')
  · exact writesAlike_ofCharacters (hjoined '/')
  · exact writesAlike_ofCharacters (camel_congr hsegments)
  · exact writesAlike_ofCharacters (congrArg (List.flatMap capitalized) hsegments)
  · exact writesAlike_ofCharacters (congrArg (List.map NewRelic.nameChar) (camel_congr hsegments))

/-- Joined segments are not told apart from the name that they are the segments of. -/
theorem writesAlike_joined (outline : String) (separator : Char) (name : String) (kind : Kind)
    (unit : Option String) :
    let convention := Convention.ofCharacters outline (joined separator)
    convention.WritesAlike (convention.name name kind unit) name := by
  refine writesAlike_ofCharacters ?_
  rw [Convention.ofCharacters, Convention.ofName, String.toList_ofList, joined_joined]

/-- The six conventions see nothing of a name but its segments. A name that the dot convention has
written is written as the name itself, and so is any name with the same segments: dots at the start,
at the end and beside other dots never matter. Joining segments by dots, underscores or slashes a
second time changes nothing. The dot convention keeps all segments in their order, and leaves no
empty piece between its dots unless there is no segment at all. -/
theorem conventions_see_segments {convention : Convention}
    (h : convention ∈ [Convention.dot, .snakeCase, .slashes, .camelCase, .upperCamelCase,
      NewRelic.convention]) (name : String) (kind : Kind) (unit : Option String) :
    let dotted := Convention.dot.name name kind unit
    convention.WritesAlike dotted name ∧
      (∀ other : String, segments name.toList = segments other.toList →
        convention.WritesAlike name other) ∧
      (∀ other : String, Join (ReflTransGen DropsDot) name.toList other.toList →
        convention.WritesAlike name other) ∧
      (convention ∈ [Convention.dot, .snakeCase, .slashes] →
        convention.WritesAlike (convention.name name kind unit) name) ∧
      segments dotted.toList = segments name.toList ∧
      Text.cut '.' dotted.toList =
        if segments name.toList = [] then [[]] else segments name.toList := by
  intro dotted
  have hdotted : dotted.toList = joined '.' name.toList := String.toList_ofList
  have hsegments : segments dotted.toList = segments name.toList := by
    rw [hdotted, segments_joined]
  refine ⟨writesAlike_of_segments_eq h hsegments, fun other => writesAlike_of_segments_eq h,
    fun other hother => writesAlike_of_segments_eq h (segments_eq_iff.2 hother), fun hjoins => ?_,
    hsegments, ?_⟩
  · simp only [List.mem_cons, List.not_mem_nil, or_false] at hjoins
    rcases hjoins with rfl | rfl | rfl
    · exact writesAlike_joined ..
    · exact writesAlike_joined ..
    · exact writesAlike_joined ..
  · rw [hdotted]
    split
    · next hnone => rw [joined, hnone]; rfl
    · next hsome => exact cut_joined hsome

/-- Two names with dots of every kind between the same segments: the second and third segment are
capitalized although they are not the second and third piece, and the letter at the start of the
third becomes two. -/
theorem conventions_see_segments_of_sizes :
    let name := "..jvm..größe.ß-x."
    let other := "jvm...größe..ß-x"
    let slashed := Convention.slashes.name name .counter none
    NewRelic.convention ∈ [Convention.dot, .snakeCase, .slashes, .camelCase, .upperCamelCase,
        NewRelic.convention] ∧
      segments name.toList = segments other.toList ∧
      Join (ReflTransGen DropsDot) name.toList other.toList ∧
      NewRelic.convention.WritesAlike name other ∧
      NewRelic.convention.name name .counter none = "jvmGr__eSS_x" ∧
      Convention.slashes ∈ [Convention.dot, .snakeCase, .slashes] ∧
      slashed = "jvm/größe/ß-x" ∧ Convention.slashes.WritesAlike slashed name := by
  intro name other slashed
  have hnewRelic : NewRelic.convention ∈ [Convention.dot, .snakeCase, .slashes, .camelCase,
      .upperCamelCase, NewRelic.convention] := by simp
  have hslashes : Convention.slashes ∈ [Convention.dot, .snakeCase, .slashes, .camelCase,
      .upperCamelCase, NewRelic.convention] := by simp
  have hjoins : Convention.slashes ∈ [Convention.dot, .snakeCase, .slashes] := by simp
  have hsegments : segments name.toList = segments other.toList := by decide +kernel
  have hjoin : Join (ReflTransGen DropsDot) name.toList other.toList := segments_eq_iff.1 hsegments
  have halike := (conventions_see_segments hnewRelic name .counter none).2.2.1 other hjoin
  have honce := (conventions_see_segments hslashes name .counter none).2.2.2.1 hjoins
  exact ⟨hnewRelic, hsegments, hjoin, halike, by decide +kernel, hjoins, by decide +kernel, honce⟩

end Telemetry
