import Mathlib.Data.Finset.Option
import Mathlib.Data.Nat.Count
import Telemetry.Naming.Cache

/-!
# What a naming cache answers, and what it costs

A cache is asked for fragments and for texts, each time with an installed convention. It answers as
if it wrote everything anew, but it only renders when the convention is another one than in the call
before, and it writes the text of a statistic once for as long as the convention stays.

## Main definitions

- `NamingCache.Query`, `NamingCache.serve` — calls of a cache, and a whole list of them
- `NamingCache.direct` — what is written without a cache
- `NamingCache.Switch`, `NamingCache.stretch` — where the convention changes between calls
- `NamingCache.Faithful` — all that is kept is what would be written anew

## Main statements

- `NamingCache.serve_new` — answers and work of a new cache, for every list of calls

## Design notes

An installed convention is known by its number. Which conventions the numbers stand for is any
function `places`, so equal conventions may have several numbers, but no number has two.
-/

namespace Telemetry

variable {Fragments : Type}

/-- The convention is the one that its number stands for. -/
def Installed.At (places : Nat → Convention) (installed : Installed) : Prop :=
  installed.convention = places installed.serial

@[simp] theorem Work.statistics_add (a b : Work) :
    (a + b).statistics = a.statistics + b.statistics :=
  rfl

@[simp] theorem Work.add_none (a : Work) : a + Work.none = a := rfl

/-! ## Rendering without and with a cache -/

/-- What is kept for an id was written by the rules. -/
structure Rendered.Faithful (rules : RenderRules Fragments) (places : Nat → Convention) (id : Id)
    (rendered : Rendered Fragments) : Prop where
  fragments : rendered.fragments = rules.render id (places rendered.installed.serial)
  texts : ∀ t ∈ rendered.byStatistic, t.2 = rules.renderStatistic rendered.fragments t.1

namespace NamingCache

variable {rules : RenderRules Fragments} {places : Nat → Convention}
  {cache : NamingCache Fragments} {installed : Installed}

/-- All that a cache keeps was written by the rules for its id. -/
def Faithful (rules : RenderRules Fragments) (places : Nat → Convention)
    (cache : NamingCache Fragments) : Prop :=
  ∀ rendered ∈ cache.current, rendered.Faithful rules places cache.id

theorem Faithful.new (rules : RenderRules Fragments) (places : Nat → Convention) (id : Id) :
    (new id : NamingCache Fragments).Faithful rules places := by
  intro rendered h
  cases h

/-- The number of the convention that a cache keeps something for. -/
def serial? (cache : NamingCache Fragments) : Option Nat :=
  cache.current.map fun r => r.installed.serial

/-- Rendering finds what is kept for the convention, or else starts afresh with it. -/
theorem render_cases (rules : RenderRules Fragments) (cache : NamingCache Fragments)
    (installed : Installed) :
    (∃ rendered, cache.serial? = some installed.serial ∧ cache.current = some rendered ∧
        cache.render rules installed = (rendered, cache, Work.none)) ∨
      (∃ rendered : Rendered Fragments, cache.serial? ≠ some installed.serial ∧
        rendered = ⟨installed, rules.render cache.id installed.convention, []⟩ ∧
        cache.render rules installed =
          (rendered, { cache with current := some rendered }, ⟨1, 0⟩)) := by
  cases hcurrent : cache.current with
  | none =>
    refine .inr ⟨_, ?_, rfl, ?_⟩
    · simp [serial?, hcurrent]
    · simp [render, kept?, hcurrent]
  | some rendered =>
    by_cases hserial : rendered.installed.serial = installed.serial
    · refine .inl ⟨rendered, ?_, rfl, ?_⟩
      · simp [serial?, hcurrent, hserial]
      · simp [render, kept?, hcurrent, hserial, Option.filter]
    · refine .inr ⟨_, ?_, rfl, ?_⟩
      · simp [serial?, hcurrent, hserial]
      · simp [render, kept?, hcurrent, hserial, Option.filter]

theorem current_render (rules : RenderRules Fragments) (cache : NamingCache Fragments)
    (installed : Installed) :
    (cache.render rules installed).2.1.current = some (cache.render rules installed).1 := by
  obtain ⟨rendered, -, hcurrent, hrender⟩ | ⟨rendered, -, -, hrender⟩ :=
    render_cases rules cache installed
  · rw [hrender]
    exact hcurrent
  · rw [hrender]

theorem text_cases (rules : RenderRules Fragments) (cache : NamingCache Fragments)
    (installed : Installed) (statistic : Option Statistic) :
    ∃ rendered after work, cache.render rules installed = (rendered, after, work) ∧
      after.current = some rendered ∧
      ((∃ text, rendered.byStatistic.lookup statistic = some text ∧
          cache.text rules installed statistic = (text, after, work)) ∨
        (∃ text, rendered.byStatistic.lookup statistic = none ∧
          text = rules.renderStatistic rendered.fragments statistic ∧
          cache.text rules installed statistic =
            (text,
              { after with
                current := some
                  { rendered with byStatistic := (statistic, text) :: rendered.byStatistic } },
              work + ⟨0, 1⟩))) := by
  have hcurrent := current_render rules cache installed
  rcases hrender : cache.render rules installed with ⟨rendered, after, work⟩
  rw [hrender] at hcurrent
  refine ⟨rendered, after, work, rfl, hcurrent, ?_⟩
  cases hlookup : rendered.byStatistic.lookup statistic with
  | some text => exact .inl ⟨text, rfl, by simp [NamingCache.text, hrender, hlookup]⟩
  | none => exact .inr ⟨_, rfl, rfl, by simp [NamingCache.text, hrender, hlookup]⟩

theorem Faithful.render (h : cache.Faithful rules places) (hplace : installed.At places) :
    let after := (cache.render rules installed).2.1
    (cache.render rules installed).1.fragments = rules.render cache.id installed.convention ∧
      after.id = cache.id ∧ after.Faithful rules places := by
  obtain ⟨rendered, hserial, hcurrent, hrender⟩ | ⟨rendered, -, hrendered, hrender⟩ :=
    render_cases rules cache installed
  · rw [hrender]
    have hsame : rendered.installed.serial = installed.serial := by
      simpa [serial?, hcurrent] using hserial
    refine ⟨?_, rfl, h⟩
    rw [(h rendered hcurrent).fragments, hsame, hplace]
  · rw [hrender, hrendered]
    refine ⟨rfl, rfl, ?_⟩
    rintro kept ⟨⟩
    exact ⟨congrArg (rules.render cache.id) hplace, by simp⟩

theorem Faithful.text (h : cache.Faithful rules places) (hplace : installed.At places)
    (statistic : Option Statistic) :
    let after := (cache.text rules installed statistic).2.1
    (cache.text rules installed statistic).1 =
        rules.renderStatistic (rules.render cache.id installed.convention) statistic ∧
      after.id = cache.id ∧ after.Faithful rules places := by
  have hrendered := h.render hplace
  obtain ⟨rendered, after, work, hrender, hcurrent, htext⟩ :=
    text_cases rules cache installed statistic
  rw [hrender] at hrendered
  obtain ⟨hfragments, hid, hafter⟩ := hrendered
  dsimp only at hfragments hid hafter
  -- the fragments may be older than this call, and so may the text
  have hkept : rendered.Faithful rules places cache.id := hid ▸ hafter rendered hcurrent
  obtain ⟨text, hlookup, htext⟩ | ⟨text, -, hwrite, htext⟩ := htext
  · rw [htext]
    obtain ⟨front, back, heq, -⟩ := List.lookup_eq_some_iff.1 hlookup
    have hmem : (statistic, text) ∈ rendered.byStatistic := by simp [heq]
    refine ⟨?_, hid, hafter⟩
    rw [← hfragments]
    exact hkept.texts _ hmem
  · rw [htext]
    refine ⟨by rw [hwrite, hfragments], hid, ?_⟩
    rintro kept ⟨⟩
    exact ⟨hid ▸ hkept.fragments, List.forall_mem_cons.2 ⟨hwrite, hkept.texts⟩⟩

/-! ## What is kept, and the work done -/

/-- The text that is kept for a statistic. -/
def text? (cache : NamingCache Fragments) (statistic : Option Statistic) : Option String :=
  cache.current.bind fun r => r.byStatistic.lookup statistic

theorem work_render (rules : RenderRules Fragments) (cache : NamingCache Fragments)
    (installed : Installed) :
    (cache.render rules installed).2.2 =
      if cache.serial? = some installed.serial then Work.none else ⟨1, 0⟩ := by
  obtain ⟨rendered, hserial, -, hrender⟩ | ⟨rendered, hserial, -, hrender⟩ :=
    render_cases rules cache installed
  · rw [hrender, if_pos hserial]
  · rw [hrender, if_neg hserial]

theorem serial?_render (rules : RenderRules Fragments) (cache : NamingCache Fragments)
    (installed : Installed) :
    (cache.render rules installed).2.1.serial? = some installed.serial := by
  obtain ⟨rendered, hserial, -, hrender⟩ | ⟨rendered, -, hrendered, hrender⟩ :=
    render_cases rules cache installed
  · rw [hrender]
    exact hserial
  · rw [hrender, hrendered]
    rfl

/-- Rendering with another convention throws the texts away. -/
theorem text?_render (rules : RenderRules Fragments) (cache : NamingCache Fragments)
    (installed : Installed) (statistic : Option Statistic) :
    (cache.render rules installed).2.1.text? statistic =
      if cache.serial? = some installed.serial then cache.text? statistic else none := by
  obtain ⟨rendered, hserial, -, hrender⟩ | ⟨rendered, hserial, hrendered, hrender⟩ :=
    render_cases rules cache installed
  · rw [hrender, if_pos hserial]
  · rw [hrender, if_neg hserial, hrendered]
    rfl

theorem serial?_text (rules : RenderRules Fragments) (cache : NamingCache Fragments)
    (installed : Installed) (statistic : Option Statistic) :
    (cache.text rules installed statistic).2.1.serial? = some installed.serial := by
  have hserial := serial?_render rules cache installed
  obtain ⟨rendered, after, work, hrender, hcurrent, htext⟩ :=
    text_cases rules cache installed statistic
  rw [hrender] at hserial
  obtain ⟨text, -, htext⟩ | ⟨text, -, -, htext⟩ := htext
  · rw [htext]
    exact hserial
  · rw [htext]
    simpa [serial?, hcurrent] using hserial

/-- A text is only written if none is kept after rendering. -/
theorem work_text (rules : RenderRules Fragments) (cache : NamingCache Fragments)
    (installed : Installed) (statistic : Option Statistic) :
    (cache.text rules installed statistic).2.2 =
      (cache.render rules installed).2.2 +
        if ((cache.render rules installed).2.1.text? statistic).isSome then Work.none
        else ⟨0, 1⟩ := by
  obtain ⟨rendered, after, work, hrender, hcurrent, htext⟩ :=
    text_cases rules cache installed statistic
  have hkept : after.text? statistic = rendered.byStatistic.lookup statistic := by
    rw [text?, hcurrent, Option.bind_some]
  rw [hrender, hkept]
  obtain ⟨text, hlookup, htext⟩ | ⟨text, hlookup, -, htext⟩ := htext
  · rw [htext, hlookup]
    rfl
  · rw [htext, hlookup]
    rfl

theorem isSome_text?_text (rules : RenderRules Fragments) (cache : NamingCache Fragments)
    (installed : Installed) (statistic other : Option Statistic) :
    ((cache.text rules installed statistic).2.1.text? other).isSome ↔
      other = statistic ∨ ((cache.render rules installed).2.1.text? other).isSome := by
  obtain ⟨rendered, after, work, hrender, hcurrent, htext⟩ :=
    text_cases rules cache installed statistic
  have hkept : after.text? other = rendered.byStatistic.lookup other := by
    rw [text?, hcurrent, Option.bind_some]
  rw [hrender, hkept]
  obtain ⟨text, hlookup, htext⟩ | ⟨text, -, -, htext⟩ := htext
  · rw [htext, hkept, or_iff_right_of_imp]
    rintro rfl
    rw [hlookup]
    rfl
  · rw [htext]
    change (List.lookup other ((statistic, text) :: rendered.byStatistic)).isSome ↔ _
    rw [List.lookup_cons]
    by_cases heq : other = statistic
    · simp [heq]
    · have hne : (other == statistic) = false := beq_eq_false_iff_ne.2 heq
      simp [hne, heq]

/-! ## Calls -/

/-- A call of a cache, with the convention of a number: for the fragments, or for the text of a
statistic. -/
inductive Query
  | fragments (serial : Nat)
  | text (serial : Nat) (statistic : Option Statistic)

namespace Query

def serial : Query → Nat
  | fragments serial => serial
  | text serial _ => serial

/-- The statistic that a text is asked for. -/
def statistic? : Query → Option (Option Statistic)
  | fragments _ => none
  | text _ statistic => some statistic

end Query

inductive Reply (Fragments : Type)
  | fragments (fragments : Fragments)
  | text (text : String)

/-- What is written for a call without a cache. -/
def direct (rules : RenderRules Fragments) (places : Nat → Convention) (id : Id) :
    Query → Reply Fragments
  | .fragments serial => .fragments (rules.render id (places serial))
  | .text serial statistic =>
    .text (rules.renderStatistic (rules.render id (places serial)) statistic)

def ask (rules : RenderRules Fragments) (places : Nat → Convention)
    (cache : NamingCache Fragments) : Query → Reply Fragments × NamingCache Fragments × Work
  | .fragments serial =>
    let (rendered, cache, work) := cache.render rules ⟨serial, places serial⟩
    (.fragments rendered.fragments, cache, work)
  | .text serial statistic =>
    let (text, cache, work) := cache.text rules ⟨serial, places serial⟩ statistic
    (.text text, cache, work)

/-- What a list of calls has come to: the replies, the cache after them and all the work. -/
structure Served (Fragments : Type) where
  replies : List (Reply Fragments)
  cache : NamingCache Fragments
  work : Work

def Served.next (rules : RenderRules Fragments) (places : Nat → Convention)
    (served : Served Fragments) (query : Query) : Served Fragments :=
  let (reply, cache, work) := served.cache.ask rules places query
  ⟨served.replies ++ [reply], cache, served.work + work⟩

def serve (rules : RenderRules Fragments) (places : Nat → Convention)
    (cache : NamingCache Fragments) (queries : List Query) : Served Fragments :=
  queries.foldl (Served.next rules places) ⟨[], cache, Work.none⟩

/-! ## Stretches of calls -/

/-- The call at a position names another convention than the call before it. The first one does so
too. -/
def Switch (queries : List Query) (i : Nat) : Prop :=
  i = 0 ∨ queries[i - 1]?.map Query.serial ≠ queries[i]?.map Query.serial

instance (queries : List Query) : DecidablePred (Switch queries) :=
  fun _ => inferInstanceAs (Decidable (_ ∨ _))

/-- How many calls of a list name another convention than the call before. -/
def switches (queries : List Query) : Nat := Nat.count (Switch queries) queries.length

/-- The number of the stretch to which the call at a position belongs. A stretch begins where the
convention changes. -/
def stretch (queries : List Query) (i : Nat) : Nat := Nat.count (Switch queries) (i + 1)

/-- The texts that the calls of a list are for, each a stretch and a statistic. -/
def wanted (queries : List Query) : Finset (Nat × Option Statistic) :=
  ((List.range queries.length).filterMap fun i =>
    (queries[i]?.bind Query.statistic?).map fun statistic =>
      (stretch queries i, statistic)).toFinset

section Stretches

variable {queries : List Query} {query : Query}

theorem switch_concat {i : Nat} (h : i < queries.length) :
    Switch (queries ++ [query]) i ↔ Switch queries i := by
  have hbefore : i - 1 < queries.length := by omega
  rw [Switch, Switch, List.getElem?_append_left h, List.getElem?_append_left hbefore]

theorem switch_concat_last :
    Switch (queries ++ [query]) queries.length ↔
      queries.getLast?.map Query.serial ≠ some query.serial := by
  cases hempty : queries with
  | nil => simp [Switch]
  | cons first rest =>
    rw [← hempty]
    have hpos : 0 < queries.length := by simp [hempty]
    have hbefore : queries.length - 1 < queries.length := by omega
    rw [Switch, List.getElem?_append_left hbefore, List.getElem?_concat_length,
      List.getLast?_eq_getElem?, Option.map_some]
    exact or_iff_right (by omega)

theorem count_switch_concat {n : Nat} (h : n ≤ queries.length) :
    Nat.count (Switch (queries ++ [query])) n = Nat.count (Switch queries) n := by
  induction n with
  | zero => rfl
  | succ n ih =>
    have hn : n < queries.length := h
    rw [Nat.count_succ, Nat.count_succ, ih hn.le]
    simp only [switch_concat hn]

theorem switches_concat (queries : List Query) (query : Query) :
    switches (queries ++ [query]) =
      switches queries +
        if queries.getLast?.map Query.serial = some query.serial then 0 else 1 := by
  rw [switches, List.length_append, List.length_singleton, Nat.count_succ,
    count_switch_concat le_rfl]
  simp only [switch_concat_last, switches, ne_eq, ite_not]

theorem stretch_concat {i : Nat} (h : i < queries.length) :
    stretch (queries ++ [query]) i = stretch queries i :=
  count_switch_concat h

/-- A call belongs to the stretch of an earlier one if and only if no call from there on has
another convention. -/
theorem stretch_eq_iff {i j : Nat} (hij : i ≤ j) :
    stretch queries i = stretch queries j ↔
      ∀ k, i ≤ k → k ≤ j → queries[k]?.map Query.serial = queries[i]?.map Query.serial := by
  induction j, hij using Nat.le_induction with
  | base =>
    refine ⟨fun _ k hik hki => ?_, fun _ => rfl⟩
    rw [Nat.le_antisymm hki hik]
  | succ j hij ih =>
    have hmono : stretch queries i ≤ stretch queries j := Nat.count_monotone _ (by omega)
    have hnext : stretch queries (j + 1) =
        stretch queries j + if Switch queries (j + 1) then 1 else 0 :=
      Nat.count_succ ..
    have hswitch : Switch queries (j + 1) ↔
        queries[j]?.map Query.serial ≠ queries[j + 1]?.map Query.serial := by
      simp [Switch]
    constructor
    · intro heq
      have hstay : ¬Switch queries (j + 1) := by
        intro h
        rw [if_pos h] at hnext
        omega
      rw [if_neg hstay] at hnext
      have hsame := ih.1 (heq.trans hnext)
      intro k hik hk
      rcases Nat.lt_or_eq_of_le hk with hlt | rfl
      · exact hsame k hik (Nat.le_of_lt_succ hlt)
      · rw [← not_not.1 (mt hswitch.2 hstay), hsame j hij le_rfl]
    · intro hsame
      have hstay : ¬Switch queries (j + 1) := by
        rw [hswitch, not_not, hsame j hij (Nat.le_succ j), hsame (j + 1) (by omega) le_rfl]
      rw [hnext, if_neg hstay]
      exact ih.2 fun k hik hk => hsame k hik (by omega)

theorem wanted_concat (queries : List Query) (query : Query) :
    wanted (queries ++ [query]) =
      wanted queries ∪
        (query.statistic?.map fun statistic =>
          (switches (queries ++ [query]), statistic)).toFinset := by
  have hold : ∀ i ∈ List.range queries.length,
      ((queries ++ [query])[i]?.bind Query.statistic?).map
          (fun statistic => (stretch (queries ++ [query]) i, statistic)) =
        (queries[i]?.bind Query.statistic?).map
          fun statistic => (stretch queries i, statistic) := by
    intro i hi
    have hlt := List.mem_range.1 hi
    rw [stretch_concat hlt, List.getElem?_append_left hlt]
  -- the new call closes the last stretch, whose number is that of all switches
  have hlast : switches (queries ++ [query]) = stretch (queries ++ [query]) queries.length := by
    rw [switches, stretch, List.length_append, List.length_singleton]
  rw [hlast, wanted, List.length_append, List.length_singleton, List.range_succ,
    List.filterMap_append, List.toFinset_append, List.filterMap_congr hold, wanted]
  congr 1
  cases h : query.statistic? <;> simp [h]

theorem le_switches_of_mem_wanted {text : Nat × Option Statistic} (h : text ∈ wanted queries) :
    text.1 ≤ switches queries := by
  obtain ⟨i, hi, htext⟩ := List.mem_filterMap.1 (List.mem_toFinset.1 h)
  obtain ⟨statistic, -, rfl⟩ := Option.map_eq_some_iff.1 htext
  exact Nat.count_monotone _ (List.mem_range.1 hi)

end Stretches

/-! ## A new cache, called any number of times -/

/-- The calls so far were answered as without a cache, and what is kept will be right for others. -/
structure Served.Answers (rules : RenderRules Fragments) (places : Nat → Convention) (id : Id)
    (queries : List Query) (served : Served Fragments) : Prop where
  replies : served.replies = queries.map (direct rules places id)
  id : served.cache.id = id
  faithful : served.cache.Faithful rules places

/-- The work so far is one rendering a stretch and one text for each that was wanted, and the texts
that are kept are those that the last stretch wanted. -/
structure Served.Account (queries : List Query) (served : Served Fragments) : Prop where
  serial : served.cache.serial? = queries.getLast?.map Query.serial
  texts : ∀ statistic, (served.cache.text? statistic).isSome ↔
    (switches queries, statistic) ∈ wanted queries
  renders : served.work.renders = switches queries
  statistics : served.work.statistics = (wanted queries).card

section Serving

variable {id : Id} {queries : List Query} {served : Served Fragments}

theorem Served.Answers.next (h : served.Answers rules places id queries) (query : Query) :
    (served.next rules places query).Answers rules places id (queries ++ [query]) := by
  have hplace (serial : Nat) : Installed.At places ⟨serial, places serial⟩ := rfl
  cases query with
  | fragments serial =>
    obtain ⟨hfragments, hid, hfaithful⟩ := h.faithful.render (hplace serial)
    refine ⟨?_, hid.trans h.id, hfaithful⟩
    rw [h.id] at hfragments
    rw [List.map_append, ← h.replies]
    exact congrArg (fun f => served.replies ++ [.fragments f]) hfragments
  | text serial statistic =>
    obtain ⟨htext, hid, hfaithful⟩ := h.faithful.text (hplace serial) statistic
    refine ⟨?_, hid.trans h.id, hfaithful⟩
    rw [h.id] at htext
    rw [List.map_append, ← h.replies]
    exact congrArg (fun t => served.replies ++ [.text t]) htext

theorem Served.Answers.foldl (h : served.Answers rules places id queries) (more : List Query) :
    (more.foldl (Served.next rules places) served).Answers rules places id (queries ++ more) := by
  induction more generalizing served queries with
  | nil => simpa using h
  | cons query rest ih => simpa using ih (h.next query)

/-- After rendering for one more call, a text is kept if the stretch of the call has wanted it
before. -/
theorem Served.Account.isSome_text?_render (h : served.Account queries)
    (rules : RenderRules Fragments) (places : Nat → Convention) (query : Query)
    (statistic : Option Statistic) :
    ((served.cache.render rules ⟨query.serial, places query.serial⟩).2.1.text?
        statistic).isSome ↔
      (switches (queries ++ [query]), statistic) ∈ wanted queries := by
  rw [text?_render, h.serial, switches_concat]
  by_cases hserial : queries.getLast?.map Query.serial = some query.serial
  · rw [if_pos hserial, if_pos hserial]
    exact h.texts statistic
  · rw [if_neg hserial, if_neg hserial]
    -- a new stretch has a number that no text was wanted for yet
    refine iff_of_false (by simp) fun hmem => ?_
    have hle := le_switches_of_mem_wanted hmem
    exact absurd hle (by simp)

theorem Served.Account.work_render (h : served.Account queries) (rules : RenderRules Fragments)
    (places : Nat → Convention) (query : Query) :
    let work := (served.cache.render rules ⟨query.serial, places query.serial⟩).2.2
    served.work.renders + work.renders = switches (queries ++ [query]) ∧ work.statistics = 0 := by
  rw [NamingCache.work_render, h.serial, h.renders, switches_concat]
  split <;> exact ⟨rfl, rfl⟩

theorem Served.Account.next (h : served.Account queries) (rules : RenderRules Fragments)
    (places : Nat → Convention) (query : Query) :
    (served.next rules places query).Account (queries ++ [query]) := by
  obtain ⟨hrenders, hnone⟩ := h.work_render rules places query
  have hkept := h.isSome_text?_render rules places query
  have hlast : (queries ++ [query]).getLast?.map Query.serial = some query.serial := by simp
  cases query with
  | fragments serial =>
    have hwanted : wanted (queries ++ [.fragments serial]) = wanted queries := by
      simp [wanted_concat, Query.statistic?]
    refine ⟨(serial?_render ..).trans hlast.symm, ?_, hrenders, ?_⟩
    · rw [hwanted]
      exact hkept
    · rw [hwanted, ← h.statistics]
      exact congrArg (served.work.statistics + ·) hnone
  | text serial statistic =>
    have hwanted : wanted (queries ++ [.text serial statistic]) =
        insert (switches (queries ++ [.text serial statistic]), statistic) (wanted queries) := by
      simp [wanted_concat, Query.statistic?]
    have hwork : (served.next rules places (.text serial statistic)).work =
        served.work + (served.cache.text rules ⟨serial, places serial⟩ statistic).2.2 :=
      rfl
    rw [work_text] at hwork
    dsimp only [Query.serial] at hrenders hkept hnone
    refine ⟨(serial?_text ..).trans hlast.symm, fun other => ?_, ?_, ?_⟩
    · refine (isSome_text?_text rules served.cache _ statistic other).trans ?_
      rw [hkept, hwanted, Finset.mem_insert, Prod.mk.injEq, and_iff_right rfl]
    · rw [hwork, ← hrenders]
      split <;> rfl
    · -- the text is written for this call if its stretch has not wanted it before
      by_cases hmem :
        (switches (queries ++ [.text serial statistic]), statistic) ∈ wanted queries
      · rw [hwork, if_pos ((hkept statistic).2 hmem), hwanted, Finset.insert_eq_of_mem hmem]
        simp [h.statistics, hnone]
      · rw [hwork, if_neg (mt (hkept statistic).1 hmem), hwanted,
          Finset.card_insert_of_notMem hmem]
        simp [h.statistics, hnone]

theorem Served.Account.foldl (h : served.Account queries) (rules : RenderRules Fragments)
    (places : Nat → Convention) (more : List Query) :
    (more.foldl (Served.next rules places) served).Account (queries ++ more) := by
  induction more generalizing served queries with
  | nil => simpa using h
  | cons query rest ih => simpa using ih (h.next rules places query)

end Serving

/-- A new cache answers every list of calls as if it wrote everything anew. It renders once for each
call whose convention is another one than in the call before, and it writes one text for each
stretch of calls with one convention and each statistic that is asked for in it. -/
theorem serve_new (rules : RenderRules Fragments) (places : Nat → Convention) (id : Id)
    (queries : List Query) :
    let served := serve rules places (.new id) queries
    served.replies = queries.map (direct rules places id) ∧
      served.work.renders = switches queries ∧
      served.work.statistics = (wanted queries).card := by
  intro served
  have hnothing : (⟨[], .new id, Work.none⟩ : Served Fragments).Answers rules places id [] :=
    ⟨rfl, rfl, .new rules places id⟩
  have hfree : (⟨[], .new id, Work.none⟩ : Served Fragments).Account [] :=
    ⟨rfl, by simp [text?, NamingCache.new, wanted], rfl, rfl⟩
  have hanswers := hnothing.foldl queries
  have haccount := hfree.foldl rules places queries
  rw [List.nil_append] at hanswers haccount
  exact ⟨hanswers.replies, haccount.renders, haccount.statistics⟩

/-- Coming back to a convention begins another stretch, and the text is written again. -/
example :
    let calls : List Query := [.text 7 none, .text 7 none, .text 8 none, .text 7 none]
    switches calls = 3 ∧ (wanted calls).card = 3 := by
  decide

end NamingCache

end Telemetry
