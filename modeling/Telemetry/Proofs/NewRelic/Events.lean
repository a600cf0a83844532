import Telemetry.Proofs.Publish.Founders
import Telemetry.Proofs.TextMap

/-!
# What is in an event

An event is one map. Its type is put in first, then the numbers of the meter, the unit of its times,
its name and type, and last its tags. No two of these have the same key but for tags, which can be
rendered to anything; and a tag is only put where nothing is.

## Main definitions

- `attributesOf` — the fixed attributes of a form of meter
- `Omitted` — an attribute is missing or not finite, or nothing is
- `Carries` — what an event has under which key

## Main statements

- `attributes?_eq_none_iff` — which snapshots have no event
- `get?_event` — the values of an event
- `write_event` — what is written of a snapshot, after any calls of the backend
-/

namespace Telemetry.NewRelic

/-! ## Attributes -/

/-- What an attribute reports: a statistic, or the average of one. -/
inductive Reported
  | statistic (of : Statistic)
  | average (of : Statistic)

namespace Reported

/-- The number that is reported, if the snapshot has all that it is made of. -/
def value? (snapshot : Snapshot) : Reported → Option Float
  | statistic of => snapshot.value? of
  | average of => (snapshot.value? of).bind fun sum => (snapshot.value? .count).map (mean sum)

/-- The number that is written, where a missing statistic is not a number. -/
def number (snapshot : Snapshot) : Reported → Float
  | statistic of => (snapshot.value? of).getD notANumber
  | average of =>
    mean ((snapshot.value? of).getD notANumber) ((snapshot.value? .count).getD notANumber)

theorem number_of_value? {snapshot : Snapshot} {r : Reported} {x : Float}
    (h : r.value? snapshot = some x) : r.number snapshot = x := by
  cases r with
  | statistic of =>
    rw [number, show snapshot.value? of = some x from h]
    rfl
  | average of =>
    obtain ⟨sum, hsum, hmean⟩ := Option.bind_eq_some_iff.1 h
    obtain ⟨count, hcount, rfl⟩ := Option.map_eq_some_iff.1 hmean
    rw [number, hsum, hcount]
    rfl

end Reported

/-- The fixed attributes of a form of meter. -/
def attributesOf : Kind → List (String × Reported)
  | .counter | .functionCounter => [("throughput", .statistic .count)]
  | .gauge => [("value", .statistic .value)]
  | .timer =>
    [("count", .statistic .count), ("avg", .average .totalTime),
     ("totalTime", .statistic .totalTime), ("max", .statistic .max)]
  | .distributionSummary =>
    [("count", .statistic .count), ("avg", .average .total), ("total", .statistic .total),
     ("max", .statistic .max)]
  | .longTaskTimer =>
    [("activeTasks", .statistic .activeTasks), ("duration", .statistic .duration)]
  | .functionTimer =>
    [("count", .statistic .count), ("avg", .average .totalTime),
     ("totalTime", .statistic .totalTime)]
  | .other => []

/-- What is averaged is reported itself, and so is the number of what was counted. -/
theorem statistics_of_average {form : Kind} {key : String} {of : Statistic}
    (h : (key, .average of) ∈ attributesOf form) :
    ∃ ofKey countKey, (ofKey, .statistic of) ∈ attributesOf form ∧
      (countKey, .statistic .count) ∈ attributesOf form := by
  cases form <;> simp [attributesOf] at h ⊢ <;> simp [h]

theorem numbers_eq_map {form : Kind} (h : form ≠ .other) (snapshot : Snapshot) :
    numbers form snapshot = (attributesOf form).map fun a => (a.1, a.2.number snapshot) := by
  cases form with
  | other => exact absurd rfl h
  | _ => rfl

/-- A fixed attribute is missing or not finite; or a custom meter has measured nothing finite. -/
def Omitted (form : Kind) (snapshot : Snapshot) : Prop :=
  if form = .other then ∀ m ∈ snapshot.measurements, m.value.isFinite = false
  else ∃ a ∈ attributesOf form, ∀ x ∈ a.2.value? snapshot, x.isFinite = false

theorem any_numbers_iff {form : Kind} (h : form ≠ .other) (snapshot : Snapshot) :
    ((numbers form snapshot).any fun n => !n.2.isFinite) = true ↔
      ∃ a ∈ attributesOf form, ∀ x ∈ a.2.value? snapshot, x.isFinite = false := by
  have hstatistic {key : String} {of : Statistic} (hmem : (key, .statistic of) ∈ attributesOf form)
      (hnone : snapshot.value? of = none) :
      ∃ a ∈ attributesOf form, (a.2.number snapshot).isFinite = false := by
    refine ⟨_, hmem, ?_⟩
    rw [Reported.number, hnone]
    decide
  rw [numbers_eq_map h, List.any_map, List.any_eq_true]
  simp only [Function.comp_apply, Bool.not_eq_true']
  constructor
  · rintro ⟨a, ha, hnumber⟩
    refine ⟨a, ha, fun x hx => ?_⟩
    rwa [Reported.number_of_value? hx] at hnumber
  · rintro ⟨⟨key, r⟩, ha, hvalue⟩
    cases hx : r.value? snapshot with
    | some x =>
      refine ⟨_, ha, ?_⟩
      rw [Reported.number_of_value? hx]
      exact hvalue x hx
    | none =>
      cases r with
      | statistic of => exact hstatistic ha hx
      | average of =>
        obtain ⟨ofKey, countKey, hof, hcount⟩ := statistics_of_average ha
        cases hsum : snapshot.value? of with
        | none => exact hstatistic hof hsum
        | some sum =>
          cases hcounted : snapshot.value? .count with
          | none => exact hstatistic hcount hcounted
          | some count => simp [Reported.value?, hsum, hcounted] at hx

/-- A snapshot has no event exactly if it is omitted. -/
theorem attributes?_eq_none_iff (unit : TimeUnit) (form : Kind) (snapshot : Snapshot) :
    attributes? unit form snapshot = none ↔ Omitted form snapshot := by
  unfold Omitted
  by_cases h : form = .other
  · subst h
    simp [attributes?, numbers]
  · have hsome : (numbers form snapshot).isEmpty = false := by
      rw [numbers_eq_map h]
      cases form <;> first | rfl | exact absurd rfl h
    rw [if_neg h, ← any_numbers_iff h]
    simp [attributes?, hsome]

instance (form : Kind) (snapshot : Snapshot) : Decidable (Omitted form snapshot) :=
  decidable_of_iff _ (attributes?_eq_none_iff .seconds form snapshot)

/-- The entries of an event that are no tags. -/
def entries (sharedType : Option String) (id : Id) (convention : Convention) (form : Kind)
    (snapshot : Snapshot) : List (String × Json.Value) :=
  let name := id.conventionName convention
  ("eventType", .text (sharedType.getD name)) ::
    ((numbers form snapshot).map (fun n => (n.1, .number n.2)) ++
      (if isTiming form then [("timeUnit", .text TimeUnit.seconds.name)] else []) ++
      if sharedType.isSome then
        [("metricName", .text name), ("metricType", .text (metricType id.kind))]
      else [])

/-- What is there before the tags are put in. -/
theorem get?_named (sharedType : Option String) (id : Id) (convention : Convention) (form : Kind)
    (snapshot : Snapshot) (key : String) :
    let name := id.conventionName convention
    let attributes := (numbers form snapshot).map (fun n => (n.1, Json.Value.number n.2)) ++
      if isTiming form then [("timeUnit", .text TimeUnit.seconds.name)] else []
    let measured :=
      (TextMap.empty.insert "eventType" (.text (sharedType.getD name))).insertAll attributes
    TextMap.get? (match sharedType with
      | none => measured
      | some _ => (measured.insert "metricName" (.text name)).insert "metricType"
          (.text (metricType id.kind))) key =
      TextMap.lastFor (entries sharedType id convention form snapshot) key := by
  intro name attributes measured
  rw [← TextMap.get?_ofList]
  cases sharedType with
  | none =>
    have hentries : entries none id convention form snapshot =
        ("eventType", .text name) :: attributes :=
      congrArg (List.cons _) (List.append_nil _)
    rw [hentries]
    rfl
  | some type =>
    change _ = TextMap.get? (TextMap.insertAll _ (("eventType", .text type) :: (attributes ++
      [("metricName", .text name), ("metricType", .text (metricType id.kind))]))) key
    rw [TextMap.insertAll, List.foldl_cons, List.foldl_append]
    rfl

/-- Tags are put into the map of all other entries, where nothing is. -/
theorem get?_event {form : Kind} {snapshot : Snapshot} {attributes : List (String × Json.Value)}
    (h : attributes? .seconds form snapshot = some attributes) (sharedType : Option String)
    (id : Id) (convention : Convention) (key : String) :
    (event sharedType (renderRules.render id convention) attributes).get? key =
      (TextMap.lastFor (entries sharedType id convention form snapshot) key).or
        (((id.conventionTags convention).find? fun t => t.1 == key).map fun t => .text t.2) := by
  have htags (m : Json.Object) (tags : List (String × String)) :
      tags.foldl (fun event t => event.insertNew t.1 (.text t.2)) m =
        (tags.map fun t => (t.1, Json.Value.text t.2)).foldl
          (fun m e => m.insertNew e.1 e.2) m := by
    rw [List.foldl_map]
  simp only [attributes?] at h
  obtain rfl := Option.some.inj (Option.ite_none_left_eq_some.1 h).2
  unfold event
  dsimp only
  rw [htags, TextMap.get?_foldl_insertNew, List.find?_map, Option.map_map]
  exact congrArg (Option.or · _) (get?_named sharedType id convention form snapshot key)

/-! ## Entries -/

/-- The last finite value of a statistic. -/
def lastFinite? (snapshot : Snapshot) (statistic : Statistic) : Option Float :=
  ((snapshot.measurements.filter fun m =>
    m.value.isFinite && m.statistic == statistic).getLast?).map (·.value)

/-- What the numbers of a meter are called. -/
def attributeKeys (form : Kind) (snapshot : Snapshot) : List String :=
  if form = .other then
    (snapshot.measurements.filter (·.value.isFinite)).map fun m => m.statistic.name
  else (attributesOf form).map Prod.fst

/-- The keys that no tag can take. -/
def ownKeys (sharedType : Option String) (form : Kind) (snapshot : Snapshot) : List String :=
  "eventType" :: (attributeKeys form snapshot ++ (if isTiming form then ["timeUnit"] else []) ++
    if sharedType.isSome then ["metricName", "metricType"] else [])

theorem map_fst_numbers (form : Kind) (snapshot : Snapshot) :
    (numbers form snapshot).map Prod.fst = attributeKeys form snapshot := by
  unfold attributeKeys
  by_cases h : form = .other
  · subst h
    rw [if_pos rfl, numbers, List.map_map]
    rfl
  · rw [if_neg h, numbers_eq_map h, List.map_map]
    rfl

theorem map_fst_entries (sharedType : Option String) (id : Id) (convention : Convention)
    (form : Kind) (snapshot : Snapshot) :
    (entries sharedType id convention form snapshot).map Prod.fst =
      ownKeys sharedType form snapshot := by
  simp only [entries, ownKeys, ← map_fst_numbers, List.map_cons, List.map_append, List.map_map]
  congr 2
  · congr 1
    split <;> rfl
  · split <;> rfl

/-- The numbers of a meter are not called like anything else in its event. -/
theorem attributeKeys_disjoint (form : Kind) (snapshot : Snapshot) :
    ∀ key ∈ attributeKeys form snapshot,
      key ∉ ["eventType", "timeUnit", "metricName", "metricType"] := by
  unfold attributeKeys
  split
  · intro key hkey
    obtain ⟨m, -, rfl⟩ := List.mem_map.1 hkey
    cases m.statistic <;> decide
  · cases form <;> decide

theorem nodup_attributesOf (form : Kind) : ((attributesOf form).map Prod.fst).Nodup := by
  cases form <;> decide

theorem name_beq_name (s t : Statistic) : (s.name == t.name) = (s == t) := by
  cases s <;> cases t <;> decide

/-- Of several finite values of a statistic a custom meter reports the last one. -/
theorem lastFor_numbers_other (snapshot : Snapshot) (statistic : Statistic) :
    TextMap.lastFor ((numbers .other snapshot).map fun n => (n.1, Json.Value.number n.2))
        statistic.name =
      (lastFinite? snapshot statistic).map Json.Value.number := by
  have hlast (p : Measurement → Bool) (ms : List Measurement) :
      ms.reverse.find? p = (ms.filter p).getLast? := by
    rw [← List.head?_filter, List.filter_reverse, List.head?_reverse]
  have hfilter : snapshot.measurements.filter (fun m =>
      m.statistic.name == statistic.name && m.value.isFinite) =
      snapshot.measurements.filter fun m => m.value.isFinite && m.statistic == statistic := by
    refine List.filter_congr fun m _ => ?_
    rw [Bool.and_comm, name_beq_name]
  rw [TextMap.lastFor, numbers, List.map_map, ← List.map_reverse, List.find?_map, hlast,
    List.filter_filter, lastFinite?, ← hfilter, Option.map_map, Option.map_map]
  rfl

/-- A fixed attribute is reported under its own key. -/
theorem lastFor_numbers {form : Kind} (h : form ≠ .other) {snapshot : Snapshot}
    {a : String × Reported} (ha : a ∈ attributesOf form) :
    TextMap.lastFor ((numbers form snapshot).map fun n => (n.1, Json.Value.number n.2)) a.1 =
      some (.number (a.2.number snapshot)) := by
  rw [numbers_eq_map h, List.map_map]
  refine TextMap.lastFor_eq_some ?_ (List.mem_map.2 ⟨a, ha, rfl⟩)
  rw [List.map_map]
  exact nodup_attributesOf form

theorem lastFor_numbers_eq_none_iff {form : Kind} {snapshot : Snapshot} {key : String} :
    TextMap.lastFor ((numbers form snapshot).map fun n => (n.1, Json.Value.number n.2)) key = none ↔
      key ∉ attributeKeys form snapshot := by
  rw [TextMap.lastFor_eq_none_iff, List.map_map, ← map_fst_numbers]
  rfl

section Entries

variable (sharedType : Option String) (id : Id) (convention : Convention) (form : Kind)
  (snapshot : Snapshot)

/-- Numbers are found under their keys, as nothing else is called like them. -/
theorem lastFor_entries {key : String}
    (h : key ∉ ["eventType", "timeUnit", "metricName", "metricType"]) :
    TextMap.lastFor (entries sharedType id convention form snapshot) key =
      TextMap.lastFor ((numbers form snapshot).map fun n => (n.1, .number n.2)) key := by
  obtain ⟨htype, hunit, hname, hmetric⟩ : "eventType" ≠ key ∧ "timeUnit" ≠ key ∧
      "metricName" ≠ key ∧ "metricType" ≠ key := by
    simpa [eq_comm] using h
  simp only [entries, TextMap.lastFor_cons, TextMap.lastFor_append, if_neg htype, Option.or_none]
  cases isTiming form <;> cases sharedType.isSome <;>
    simp [TextMap.lastFor_cons, hunit, hname, hmetric]

/-- The other entries are found under their keys, as no number is called like them. -/
theorem lastFor_entries_reserved :
    let found := TextMap.lastFor (entries sharedType id convention form snapshot)
    let name := id.conventionName convention
    found "eventType" = some (.text (sharedType.getD name)) ∧
      (isTiming form = true → found "timeUnit" = some (.text TimeUnit.seconds.name)) ∧
      (sharedType.isSome = true → found "metricName" = some (.text name) ∧
        found "metricType" = some (.text (metricType id.kind))) := by
  have hnone : ∀ key ∈ ["eventType", "timeUnit", "metricName", "metricType"],
      TextMap.lastFor ((numbers form snapshot).map fun n => (n.1, Json.Value.number n.2)) key =
        none := by
    intro key hkey
    exact lastFor_numbers_eq_none_iff.2 fun h => attributeKeys_disjoint form snapshot key h hkey
  obtain ⟨htype, hunit, hname, hmetric⟩ : _ ∧ _ ∧ _ ∧ _ := by
    simpa only [List.forall_mem_cons, List.not_mem_nil, false_imp_iff, forall_const, and_true]
      using hnone
  intro found name
  simp only [found, entries, TextMap.lastFor_cons, TextMap.lastFor_append]
  cases isTiming form <;> cases sharedType <;>
    simp [TextMap.lastFor_cons, htype, hunit, hname, hmetric, name]

end Entries

/-- An event has each entry under its own key, and the first tag of each key that is left. -/
structure Carries (sharedType : Option String) (id : Id) (convention : Convention) (form : Kind)
    (snapshot : Snapshot) (event : Json.Object) : Prop where
  type : event.get? "eventType" = some (.text (sharedType.getD (id.conventionName convention)))
  fixed : ∀ a ∈ attributesOf form, ∃ x, a.2.value? snapshot = some x ∧ x.isFinite = true ∧
    event.get? a.1 = some (.number x)
  custom : form = .other → ∀ statistic x, lastFinite? snapshot statistic = some x →
    event.get? statistic.name = some (.number x)
  unit : isTiming form = true → event.get? "timeUnit" = some (.text "seconds")
  metric : sharedType.isSome = true →
    event.get? "metricName" = some (.text (id.conventionName convention)) ∧
      event.get? "metricType" = some (.text (metricType id.kind))
  tags : ∀ key ∉ ownKeys sharedType form snapshot, event.get? key =
    ((id.conventionTags convention).find? fun t => t.1 == key).map fun t => .text t.2
  keys : ∀ key, event.contains key = true ↔
    key ∈ ownKeys sharedType form snapshot ∨ key ∈ (id.conventionTags convention).map Prod.fst

theorem carries_event {form : Kind} {snapshot : Snapshot} {attributes : List (String × Json.Value)}
    (h : attributes? .seconds form snapshot = some attributes) (sharedType : Option String)
    (id : Id) (convention : Convention) :
    Carries sharedType id convention form snapshot
      (event sharedType (renderRules.render id convention) attributes) := by
  have hget := get?_event h sharedType id convention
  obtain ⟨htype, hunit, hmetric⟩ :=
    lastFor_entries_reserved sharedType id convention form snapshot
  have hfinite : ¬Omitted form snapshot := by
    rw [← attributes?_eq_none_iff .seconds, h]
    exact Option.some_ne_none _
  -- an entry is found before any tag
  have hfound {key : String} {value : Json.Value}
      (hvalue : TextMap.lastFor (entries sharedType id convention form snapshot) key = some value) :
      (event sharedType (renderRules.render id convention) attributes).get? key = some value := by
    rw [hget, hvalue, Option.some_or]
  have hnumber {key : String} {value : Json.Value}
      (hvalue : TextMap.lastFor ((numbers form snapshot).map fun n => (n.1, .number n.2)) key =
        some value) :
      (event sharedType (renderRules.render id convention) attributes).get? key = some value := by
    refine hfound ((lastFor_entries sharedType id convention form snapshot ?_).trans hvalue)
    refine attributeKeys_disjoint form snapshot key (Decidable.of_not_not fun hkey => ?_)
    rw [← lastFor_numbers_eq_none_iff, hvalue] at hkey
    cases hkey
  constructor
  case type => exact hfound htype
  case fixed =>
    intro a ha
    have hform : form ≠ .other := by
      rintro rfl
      cases ha
    obtain ⟨x, hx, hxfinite⟩ : ∃ x, a.2.value? snapshot = some x ∧ x.isFinite = true := by
      by_contra hmissing
      refine hfinite ((if_neg hform).mpr ⟨a, ha, fun x hx => ?_⟩)
      exact Bool.eq_false_iff.2 fun hxfinite => hmissing ⟨x, hx, hxfinite⟩
    refine ⟨x, hx, hxfinite, hnumber ?_⟩
    rw [lastFor_numbers hform ha, Reported.number_of_value? hx]
  case custom =>
    rintro rfl statistic x hx
    refine hnumber ((lastFor_numbers_other snapshot statistic).trans ?_)
    rw [hx]
    rfl
  case unit => exact fun htiming => hfound (hunit htiming)
  case metric =>
    intro hshared
    exact ⟨hfound (hmetric hshared).1, hfound (hmetric hshared).2⟩
  case tags =>
    intro key hkey
    rw [← map_fst_entries sharedType id convention, ← TextMap.lastFor_eq_none_iff] at hkey
    rw [hget, hkey, Option.none_or]
  case keys =>
    intro key
    have hown : (TextMap.lastFor (entries sharedType id convention form snapshot) key).isSome =
        true ↔ key ∈ ownKeys sharedType form snapshot := by
      rw [← map_fst_entries sharedType id convention, ← not_iff_not,
        ← TextMap.lastFor_eq_none_iff, Bool.not_eq_true, Option.isSome_eq_false_iff,
        Option.isNone_iff_eq_none]
    have htag : ((id.conventionTags convention).find? fun t => t.1 == key).isSome = true ↔
        key ∈ (id.conventionTags convention).map Prod.fst := by
      simp
    rw [TextMap.contains, hget, Option.isSome_or, Option.isSome_map, Bool.or_eq_true, hown, htag]

/-- Whatever the backend was called for before, nothing is written of a snapshot if a fixed
attribute is missing or not finite, or if a custom meter has measured nothing finite. Otherwise one
event is written. It has what the meter reports under the keys of its form, and each tag under its
key unless that is taken, by one of these or by a tag before it. -/
theorem write_event (config : Config) {places : Nat → Convention} {calls : List Backend.Call}
    (hcalls : ∀ call ∈ calls, call.At places) (id : Id) (form : Kind) (snapshot : Snapshot)
    (serial : Nat) :
    let keeps := fun form snapshot => (attributes? .seconds form snapshot).isSome
    let written := ((backend config).write ((backend config).after calls) id form snapshot
      ⟨serial, places serial⟩).records
    (Omitted form snapshot → written = []) ∧
      (¬Omitted form snapshot → ∃ event, written = [event] ∧
        Carries (sharedType config) (id.under (Backend.unitOf keeps calls id.toIdentity))
          (places serial) form snapshot event) := by
  intro keeps written
  have hwritten : written = _ := (shelves_backend config).records
    ((shelves_backend config).after hcalls)
    (show Installed.At places ⟨serial, places serial⟩ from rfl) id form snapshot
  rw [hwritten]
  unfold outputOf
  rw [← attributes?_eq_none_iff .seconds]
  cases h : attributes? .seconds form snapshot with
  | none => exact ⟨fun _ => rfl, fun hsome => absurd rfl hsome⟩
  | some attributes =>
    refine ⟨fun hnone => absurd hnone (Option.some_ne_none _), fun _ => ⟨_, rfl, ?_⟩⟩
    exact carries_event h _ _ _

/-- Of two tags that the convention renders to one key the first is kept, and none is kept that is
called like an attribute. -/
theorem write_event_shadowed :
    let id := (((Id.new "cache.loads" .functionTimer).withTag "avg" "0").withTag "host.name"
      "a").withTag "hostName" "b"
    let snapshot : Snapshot := .ofMeasurements [⟨.count, 4.0⟩, ⟨.totalTime, 8.0⟩]
    let calls : List Backend.Call :=
      [.write id .functionTimer snapshot ⟨0, convention⟩, .retain [id.toIdentity]]
    let config : Config := ⟨.default, "1", "key", "localhost", "Sample", false⟩
    (∀ call ∈ calls, call.At fun _ => convention) ∧ ¬Omitted .functionTimer snapshot ∧
      ∃ event, ((backend config).write ((backend config).after calls) id .functionTimer snapshot
          ⟨0, convention⟩).records = [event] ∧
        event.get? "avg" = some (.number 2.0) ∧ event.get? "hostName" = some (.text "a") := by
  intro id snapshot calls config
  have hcalls : ∀ call ∈ calls, call.At fun _ => convention := by
    simp [calls, Backend.Call.At, Installed.At]
  have hfinite : ¬Omitted .functionTimer snapshot := by decide +kernel
  obtain ⟨event, hwritten, hcarries⟩ :=
    (write_event config hcalls id .functionTimer snapshot 0).2 hfinite
  refine ⟨hcalls, hfinite, event, hwritten, ?_, ?_⟩
  · obtain ⟨x, hx, -, hget⟩ := hcarries.fixed ("avg", .average .totalTime) (.tail _ (.head _))
    have hmean : (Reported.average .totalTime).value? snapshot = some 2.0 := by decide +kernel
    rw [hget, Option.some.inj (hx.symm.trans hmean)]
  · rw [hcarries.tags "hostName" (by decide +kernel)]
    rfl

end Telemetry.NewRelic
