import Telemetry.Proofs.Publish.Founders
import Telemetry.Proofs.Statsd.Datadog

/-!
# Names that a Datadog server takes

A Datadog server wants a name that starts with a letter, and takes all up to the first colon of a
line for the name. The Datadog flavor cleans a name before the convention is applied. Conventions
that join the segments of a name by something else than a colon keep it clean: the letter at its
start is in the first segment, which is never empty, and no colon comes in.

## Main definitions

- `WellFormed` — a name that starts with a letter and has no colon
- `Keeps` — a convention that keeps such names well-formed

## Main statements

- `wellFormed_datadogName`, `WellFormed.datadogName_eq` — a name is cleaned once
- `wellFormed_joined` — joining the segments of a name keeps it well-formed
- `datadog_name_first` — the name of every line that the backend writes
-/

namespace Telemetry

namespace Statsd

/-! ## Well-formed names -/

/-- A name that starts with a letter, so that it is not empty, and has no colon. -/
structure WellFormed (name : List Char) : Prop where
  head : ∃ c rest, name = c :: rest ∧ Text.isAlphabetic c = true
  colon : ':' ∉ name

theorem ne_of_isAlphabetic {c : Char} (h : Text.isAlphabetic c = true) : c ≠ '.' ∧ c ≠ ':' := by
  constructor
  · rintro rfl
    exact absurd h (by decide +kernel)
  · rintro rfl
    exact absurd h (by decide +kernel)

theorem wellFormed_datadogName (name : List Char) : WellFormed (datadogName name) := by
  have hm : Text.isAlphabetic 'm' = true := by decide +kernel
  have hclean : ':' ∉ name.map fun c => if c = ':' then '_' else c := by
    intro hmem
    obtain ⟨c, -, hc⟩ := List.mem_map.1 hmem
    split at hc
    · exact absurd hc (by decide)
    · contradiction
  cases name with
  | nil => exact ⟨⟨'m', ['.'], rfl, hm⟩, by decide⟩
  | cons c rest =>
    simp only [datadogName]
    split
    · next hc =>
      have hkept : (if c = ':' then '_' else c) = c := if_neg (ne_of_isAlphabetic hc).2
      exact ⟨⟨c, _, congrArg₂ List.cons hkept rfl, hc⟩, hclean⟩
    · exact ⟨⟨'m', _, rfl, hm⟩, by simpa using hclean⟩

/-- There is nothing to clean in a well-formed name. -/
theorem WellFormed.datadogName_eq {name : List Char} (h : WellFormed name) :
    datadogName name = name := by
  obtain ⟨⟨c, rest, rfl, hc⟩, hcolon⟩ := h
  have hclean : (c :: rest).map (fun c => if c = ':' then '_' else c) = (c :: rest).map id :=
    List.map_congr_left fun x hx => if_neg fun hx' : x = ':' => hcolon (hx' ▸ hx)
  simp only [datadogName]
  rw [if_pos hc, hclean, List.map_id]

/-- Cleaning a name that has been cleaned changes nothing. -/
theorem datadogName_datadogName (name : List Char) :
    datadogName (datadogName name) = datadogName name :=
  (wellFormed_datadogName name).datadogName_eq

/-! ## Conventions -/

/-- A well-formed name starts with a segment, and so do its segments when they are joined. -/
theorem wellFormed_joined {separator : Char} (hseparator : separator ≠ ':') {name : List Char}
    (h : WellFormed name) : WellFormed (joined separator name) := by
  obtain ⟨⟨c, rest, rfl, hc⟩, hcolon⟩ := h
  have hjoined : ∃ more, joined separator (c :: rest) = c :: more := by
    cases hcut : Text.cut '.' rest with
    | nil => exact absurd hcut (Text.cut_ne_nil '.' rest)
    | cons piece pieces =>
      have hsegments : segments (c :: rest) = (c :: piece) :: pieces.filter fun s => !s.isEmpty := by
        simp [segments, Text.cut, (ne_of_isAlphabetic hc).1, hcut]
      rw [joined, hsegments]
      by_cases hmore : pieces.filter (fun s => !s.isEmpty) = []
      · rw [hmore]
        exact ⟨piece, rfl⟩
      · rw [Text.join_cons _ _ hmore]
        exact ⟨_, rfl⟩
  obtain ⟨more, hmore⟩ := hjoined
  refine ⟨⟨c, more, hmore, hc⟩, ?_⟩
  rwa [← List.count_eq_zero, count_joined (by decide) hseparator.symm, List.count_eq_zero]

/-- A convention that writes a name by its characters alone, and keeps it well-formed. -/
structure Keeps (convention : Convention) (write : List Char → List Char) : Prop where
  toList_name : ∀ name kind unit, (convention.name name kind unit).toList = write name.toList
  wellFormed : ∀ name, WellFormed name → WellFormed (write name)

theorem keeps_verbatim : Keeps .verbatim id := ⟨fun _ _ _ => rfl, fun _ h => h⟩

theorem keeps_ofCharacters {outline : String} {separator : Char} (h : separator ≠ ':') :
    Keeps (.ofCharacters outline (joined separator)) (joined separator) :=
  ⟨fun _ _ _ => String.toList_ofList, fun _ => wellFormed_joined h⟩

theorem exists_keeps {convention : Convention}
    (h : convention ∈ [Convention.verbatim, .dot, .snakeCase, .slashes]) :
    ∃ write, Keeps convention write := by
  simp only [List.mem_cons, List.not_mem_nil, or_false] at h
  rcases h with rfl | rfl | rfl | rfl
  · exact ⟨_, keeps_verbatim⟩
  · exact ⟨_, keeps_ofCharacters (by decide)⟩
  · exact ⟨_, keeps_ofCharacters (by decide)⟩
  · exact ⟨_, keeps_ofCharacters (by decide)⟩

theorem Keeps.writeName_eq {convention : Convention} {write : List Char → List Char}
    (h : Keeps convention write) (id : Id) :
    writeName Flavor.datadog.rules id convention = write (datadogName id.name.toList) :=
  (h.toList_name _ _ _).trans (congrArg write String.toList_ofList)

/-! ## Lines -/

/-- What a line of the Datadog flavor starts with. -/
def Starts (name : List Char) (line : String) : Prop :=
  ∃ amount type tags,
    line.toList = name ++ ':' :: (Decimal.plain.characters amount ++ '|' :: type :: tags)

theorem starts_ofList_compose (name tags : List Char) (amount : Float) (type : Char) :
    Starts name (String.ofList (compose Flavor.datadog.rules name tags amount type)) := by
  refine ⟨amount, type, tags, String.toList_ofList.trans ?_⟩
  have hlayout : Flavor.datadog.rules.layout = .tagsAfterValue := rfl
  rw [compose, hlayout]
  simp only [List.append_assoc, List.cons_append, List.nil_append]

theorem Starts.head?_cut {name : List Char} {line : String} (h : Starts name line)
    (hcolon : ':' ∉ name) : (Text.cut ':' line.toList).head? = some name := by
  obtain ⟨amount, type, tags, hline⟩ := h
  rw [hline, Text.cut_append hcolon]
  rfl

/-- Every line of a meter starts with its name. -/
theorem starts_outputOf {id : Id} {form : Kind} {snapshot : Snapshot} {convention : Convention}
    {line : String} (h : line ∈ (outputOf Flavor.datadog.rules id form snapshot convention).1) :
    Starts (writeName Flavor.datadog.rules id convention) line := by
  rcases List.mem_append.1 h with h | h
  · obtain ⟨s, -, rfl⟩ := List.mem_map.1 h
    exact starts_ofList_compose ..
  · obtain ⟨b, -, rfl⟩ := List.mem_map.1 h
    exact starts_ofList_compose ..

/-- Whatever the name of a meter, under each of the conventions that join segments or leave names as
they are, the Datadog flavor writes it starting with a letter and without a colon. This is what every
line of the meter starts with, up to the first colon of the line, whatever the backend was called for
before. A name that has been cleaned is not changed by cleaning it again. -/
theorem datadog_name_first (config : Config) (hflavor : config.flavor = .datadog)
    {places : Nat → Convention} {calls : List Backend.Call} (hcalls : ∀ call ∈ calls, call.At places)
    (serial : Nat) (hplace : places serial ∈ [Convention.verbatim, .dot, .snakeCase, .slashes])
    (id : Id) (form : Kind) (snapshot : Snapshot) :
    let name := writeName Flavor.datadog.rules id (places serial)
    WellFormed name ∧
      (∀ line ∈ ((backend config).write ((backend config).after calls) id form snapshot
          ⟨serial, places serial⟩).records,
        Starts name line ∧ (Text.cut ':' line.toList).head? = some name) ∧
      datadogName (datadogName id.name.toList) = datadogName id.name.toList := by
  intro name
  obtain ⟨write, hkeeps⟩ := exists_keeps hplace
  have hname : WellFormed name := by
    have hclean := hkeeps.wellFormed _ (wellFormed_datadogName id.name.toList)
    rwa [← hkeeps.writeName_eq] at hclean
  refine ⟨hname, fun line hline => ?_, datadogName_datadogName _⟩
  have hrecords := (shelves_backend config).records ((shelves_backend config).after hcalls)
    (show Installed.At places ⟨serial, places serial⟩ from rfl) id form snapshot
  rw [hrecords, hflavor] at hline
  have hstarts : Starts name line := by
    have hwritten := starts_outputOf hline
    -- the unit that the backend knows the meter by does not matter to these conventions
    rw [hkeeps.writeName_eq] at hwritten
    have hname : name = write (datadogName id.name.toList) := hkeeps.writeName_eq id
    rwa [hname]
  exact ⟨hstarts, hstarts.head?_cut hname.colon⟩

/-- A name that starts with a dot, a colon and a digit; the backend has written the meter before. -/
theorem datadog_name_first_digit :
    let places := fun _ : Nat => Convention.dot
    let id := Id.new ".:9" .counter
    let snapshot := Snapshot.ofMeasurements [⟨.count, 3⟩]
    let calls : List Backend.Call := [.write id .counter snapshot ⟨0, .dot⟩]
    let lines := ((backend .default).write ((backend .default).after calls) id .counter snapshot
      ⟨0, places 0⟩).records
    Config.default.flavor = .datadog ∧ (∀ call ∈ calls, call.At places) ∧
      places 0 ∈ [Convention.verbatim, .dot, .snakeCase, .slashes] ∧
      lines = ["m._9:3|c"] ∧ WellFormed "m._9".toList ∧
      ∀ line ∈ lines, (Text.cut ':' line.toList).head? = some "m._9".toList := by
  intro places id snapshot calls lines
  have hcalls : ∀ call ∈ calls, call.At places := by
    simp [calls, Backend.Call.At, Installed.At, places]
  have hplace : places 0 ∈ [Convention.verbatim, .dot, .snakeCase, .slashes] := by simp [places]
  obtain ⟨hname, hlines, -⟩ := datadog_name_first .default rfl hcalls 0 hplace id .counter snapshot
  have hwritten : writeName Flavor.datadog.rules id (places 0) = "m._9".toList := by decide +kernel
  rw [hwritten] at hname hlines
  exact ⟨rfl, hcalls, hplace, by decide +kernel, hname, fun line hline => (hlines line hline).2⟩

end Statsd

end Telemetry
