import Mathlib
import Telemetry.NewRelic.Config
import Telemetry.Proofs.Time.SpanText
import Telemetry.Statsd.Config

/-!
# Configurations that are written and read

Reading looks every setting up by its name, so it finds what was written wherever it stands and
whatever stands around it, and the settings of publishing may stand among those of an exporter. All
that has to be known of the format is that it finds a setting whose name occurs once, and how it
writes and reads spans. A flavor is read in any mix of upper and lower case and written in lower
case.

## Main definitions

- `SettingsFormat.Documented` — what is documented of a format
- `Settings.Among` — the written settings in any order, among others under other names
- `Settings.Hold` — what is found of them
- `StepConfig.Fits`, `Statsd.Config.Fits`, `NewRelic.Config.Fits` — numbers that are words
- `Statsd.Config.respelled` — the settings with another text for the flavor

## Main statements

- `hold_of_among` — every written setting is found
- `settings_round_trip` — reading undoes writing, and which texts name a flavor
-/

namespace Telemetry

/-- A setting whose name occurs only once is found under it, and spans are written and read as
documented. -/
structure SettingsFormat.Documented (format : SettingsFormat) : Prop where
  find?_once : ∀ (settings : Settings) (key : String) (value : Setting), (key, value) ∈ settings →
    (settings.map Prod.fst).count key = 1 → format.find? settings key = some value
  spans : format.spans.Documented

namespace Settings

/-- The written settings stand among the settings in any order, the others under other names. -/
def Among (written settings : Settings) : Prop :=
  ∃ others : Settings, (∀ e ∈ others, e.1 ∉ written.map Prod.fst) ∧
    settings.Perm (written ++ others)

/-- Each of the written settings is what the format finds under its name. -/
def Hold (settings : Settings) (format : SettingsFormat) (written : Settings) : Prop :=
  ∀ e ∈ written, format.find? settings e.1 = some e.2

/-- A name of the written settings occurs once, whatever their order and the other settings. -/
theorem count_of_among {settings written : Settings} (hkeys : (written.map Prod.fst).Nodup)
    (hamong : written.Among settings) {key : String} (hkey : key ∈ written.map Prod.fst) :
    (settings.map Prod.fst).count key = 1 := by
  obtain ⟨others, hothers, hperm⟩ := hamong
  have hother : key ∉ others.map Prod.fst := by
    intro hmem
    obtain ⟨e, he, rfl⟩ := List.mem_map.1 hmem
    exact hothers e he hkey
  rw [(hperm.map Prod.fst).count_eq, List.map_append, List.count_append,
    List.count_eq_one_of_mem hkeys hkey, List.count_eq_zero_of_not_mem hother]

theorem hold_of_among {format : SettingsFormat} (h : format.Documented)
    {settings written : Settings} (hkeys : (written.map Prod.fst).Nodup)
    (hamong : written.Among settings) : settings.Hold format written := by
  rintro ⟨key, value⟩ hmem
  have honce := count_of_among hkeys hamong (List.mem_map_of_mem hmem)
  obtain ⟨others, -, hperm⟩ := hamong
  exact h.find?_once settings key value (hperm.mem_iff.2 (List.mem_append_left _ hmem)) honce

theorem read_of_find? {format : SettingsFormat} {α : Type} {settings : Settings} {key : String}
    {value : Setting} (h : format.find? settings key = some value) (default : α)
    (form : Setting → Option α) : settings.read format key default form = form value := by
  rw [read, h]

theorem lookup_of_count_eq_one {settings : Settings} {key : String} {value : Setting}
    (hmem : (key, value) ∈ settings) (honce : (settings.map Prod.fst).count key = 1) :
    settings.lookup key = some value := by
  induction settings with
  | nil => exact absurd hmem List.not_mem_nil
  | cons first rest ih =>
    obtain ⟨name, v⟩ := first
    rw [List.map_cons] at honce
    by_cases hname : key = name
    · subst hname
      rw [List.count_cons_self, Nat.add_eq_right, List.count_eq_zero] at honce
      -- the name does not occur again, so the setting is the first one
      have hrest : (key, value) ∉ rest := fun h => honce (List.mem_map_of_mem h)
      have hvalue : (key, value) = (key, v) := (List.mem_cons.1 hmem).resolve_right hrest
      rw [List.lookup_cons_self, (Prod.mk.inj hvalue).2]
    · rw [List.count_cons_of_ne (Ne.symm hname)] at honce
      have hrest : (key, value) ∈ rest := by simpa [hname] using hmem
      rw [List.lookup_cons, beq_false_of_ne hname]
      exact ih hrest honce

end Settings

theorem SettingsFormat.documented_standard : standard.Documented :=
  ⟨fun _ _ _ => Settings.lookup_of_count_eq_one, SpanFormat.documented_standard⟩

theorem Setting.numberBelow?_number {bound n : Nat} (h : n < bound) :
    Setting.numberBelow? bound (.number n) = some n :=
  if_pos h

/-! ## The three configurations -/

namespace StepConfig

/-- The size of a batch is a word. -/
def Fits (config : StepConfig) : Prop := config.batchSize < UInt64.size

theorem nodup_keys (config : StepConfig) (format : SettingsFormat) :
    ((config.toSettings format).map Prod.fst).Nodup :=
  (by decide : names.Nodup)

theorem ofSettings?_of_hold {format : SettingsFormat} (hspans : format.spans.Documented)
    {config : StepConfig} (hfits : config.Fits) {settings : Settings}
    (h : settings.Hold format (config.toSettings format)) :
    ofSettings? format settings = some config := by
  simp only [Settings.Hold, toSettings, List.forall_mem_cons] at h
  obtain ⟨henabled, hstep, hbatch, -⟩ := h
  have hspan : stepForm? format.spans (.text (format.spans.write config.step)) = some config.step :=
    hspans.read?_write config.step
  rw [ofSettings?, Settings.read_of_find? henabled, Settings.read_of_find? hstep,
    Settings.read_of_find? hbatch, hspan, Setting.size?, Setting.numberBelow?_number hfits]
  rfl

end StepConfig

namespace NewRelic.Config

def Fits (config : Config) : Prop := config.step.Fits

theorem nodup_keys (config : Config) (format : SettingsFormat) :
    ((config.toSettings format).map Prod.fst).Nodup :=
  (by decide : (StepConfig.names ++ ["account_id", "api_key", "uri", "event_type",
    "meter_name_event_type_enabled"]).Nodup)

theorem ofSettings?_of_hold {format : SettingsFormat} (hspans : format.spans.Documented)
    {config : Config} (hfits : config.Fits) {settings : Settings}
    (h : settings.Hold format (config.toSettings format)) :
    ofSettings? format settings = some config := by
  obtain ⟨hstep, hown⟩ := List.forall_mem_append.1 h
  simp only [List.forall_mem_cons] at hown
  obtain ⟨haccount, hkey, huri, htype, hbyName, -⟩ := hown
  rw [ofSettings?, StepConfig.ofSettings?_of_hold hspans hfits hstep,
    Settings.read_of_find? haccount, Settings.read_of_find? hkey, Settings.read_of_find? huri,
    Settings.read_of_find? htype, Settings.read_of_find? hbyName]
  rfl

end NewRelic.Config

namespace Statsd

namespace Config

/-- The sizes are words, and the port is a short one. -/
def Fits (config : Config) : Prop :=
  config.step.Fits ∧ config.port < UInt16.size ∧ config.maxPacketLength < UInt64.size

/-- The written settings with a text of one's own for the flavor. -/
def respelled (config : Config) (format : SettingsFormat) (name : String) : Settings :=
  (config.toSettings format).map fun e => if e.1 = "flavor" then ("flavor", .text name) else e

theorem respelled_eq (config : Config) (format : SettingsFormat) (name : String) :
    config.respelled format name = config.step.toSettings format ++
      [("flavor", .text name), ("host", .text config.host), ("port", .number config.port),
       ("protocol", .text config.protocol.name),
       ("max_packet_length", .number config.maxPacketLength)] :=
  rfl

theorem nodup_respelled (config : Config) (format : SettingsFormat) (name : String) :
    ((config.respelled format name).map Prod.fst).Nodup :=
  (by decide : (StepConfig.names ++ ["flavor", "host", "port", "protocol",
    "max_packet_length"]).Nodup)

theorem ofSettings?_of_hold {format : SettingsFormat} (hspans : format.spans.Documented)
    {config : Config} (hfits : config.Fits) {name : String} {settings : Settings}
    (h : settings.Hold format (config.respelled format name)) :
    ofSettings? format settings =
      (Flavor.ofName? name).map fun flavor => { config with flavor := flavor } := by
  obtain ⟨hwords, hport, hlength⟩ := hfits
  rw [respelled_eq] at h
  obtain ⟨hstep, hown⟩ := List.forall_mem_append.1 h
  simp only [List.forall_mem_cons] at hown
  obtain ⟨hflavor, hhost, hports, hprotocol, hlengths, -⟩ := hown
  have hname : Protocol.ofName? config.protocol.name = some config.protocol := by
    cases config.protocol <;> decide
  rw [ofSettings?, StepConfig.ofSettings?_of_hold hspans hwords hstep,
    Settings.read_of_find? hflavor, Settings.read_of_find? hhost, Settings.read_of_find? hports,
    Settings.read_of_find? hprotocol, Settings.read_of_find? hlengths, Setting.size?,
    Setting.numberBelow?_number hport, Setting.numberBelow?_number hlength]
  change ((Flavor.ofName? name).bind fun flavor => (Protocol.ofName? config.protocol.name).bind
    fun protocol => some (Config.mk config.step flavor config.host config.port protocol
      config.maxPacketLength)) = _
  rw [hname]
  cases Flavor.ofName? name <;> rfl

end Config

/-! ## Names of flavors -/

/-- A lower-case letter comes from itself and from its upper case. -/
theorem toLower_eq_iff {c d : Char} (hd : d.isLower = true) :
    c.toLower = d ↔ c = d ∨ c = d.toUpper := by
  constructor
  · rintro rfl
    by_cases hc : c.isUpper = true
    · right
      rw [Char.toUpper_toLower_eq_toUpper,
        Char.toUpper_eq_of_not_isLower (Char.not_isLower_of_isUpper hc)]
    · left
      rw [Char.toLower_eq_of_not_isUpper hc]
  · have hlower := Char.toLower_eq_of_not_isUpper (Char.not_isUpper_of_isLower hd)
    rintro (rfl | rfl)
    · exact hlower
    · rw [Char.toLower_toUpper_eq_toLower, hlower]

theorem map_toLower_eq_iff {name letters : List Char} (h : ∀ d ∈ letters, d.isLower = true) :
    name.map Char.toLower = letters ↔
      List.Forall₂ (fun c d => c = d ∨ c = d.toUpper) name letters := by
  induction letters generalizing name with
  | nil => rw [List.map_eq_nil_iff, List.forall₂_nil_right_iff]
  | cons d letters ih =>
    obtain ⟨hd, hletters⟩ := List.forall_mem_cons.1 h
    cases name with
    | nil => simp
    | cons c name =>
      rw [List.map_cons, List.cons.injEq, List.forall₂_cons, toLower_eq_iff hd, ih hletters]

theorem Flavor.isLower_of_mem_name (flavor : Flavor) :
    ∀ d ∈ flavor.name.toList, d.isLower = true := by
  rw [← List.all_eq_true]
  cases flavor <;> rfl

theorem Flavor.ofName?_eq_some {name : String} {flavor : Flavor} :
    ofName? name = some flavor ↔
      List.Forall₂ (fun c d => c = d ∨ c = d.toUpper) name.toList flavor.name.toList := by
  have hfound : ofName? name = some flavor ↔ name.toLower = flavor.name := by
    constructor
    · intro h
      rw [ofName?] at h
      have hname := List.find?_some h
      exact (eq_of_beq hname).symm
    · intro h
      rw [ofName?, h]
      cases flavor <;> decide
  rw [hfound, ← map_toLower_eq_iff flavor.isLower_of_mem_name, ← String.toList_inj, String.toLower,
    String.toList_map]

end Statsd

/-- In every format that does as documented, and whatever the settings, valid or not, reading gives
back the configuration from which they were written, in any order and among others. For the flavor
any text may be given. The name of a flavor in any mix of upper and lower case is read as that
flavor, whose name in lower case is then written, and no other text is read at all. -/
theorem settings_round_trip {format : SettingsFormat} (h : format.Documented)
    (settings : Settings) :
    (∀ config : StepConfig, config.Fits → (config.toSettings format).Among settings →
        StepConfig.ofSettings? format settings = some config) ∧
      (∀ config : Statsd.Config, config.Fits → (config.toSettings format).Among settings →
        Statsd.Config.ofSettings? format settings = some config) ∧
      (∀ config : NewRelic.Config, config.Fits → (config.toSettings format).Among settings →
        NewRelic.Config.ofSettings? format settings = some config) ∧
      (∀ (config : Statsd.Config) (name : String), config.Fits →
        (config.respelled format name).Among settings →
        Statsd.Config.ofSettings? format settings = (Statsd.Flavor.ofName? name).map fun flavor =>
          { config with flavor := flavor }) ∧
      (∀ (name : String) (flavor : Statsd.Flavor), Statsd.Flavor.ofName? name = some flavor ↔
        List.Forall₂ (fun c d => c = d ∨ c = d.toUpper) name.toList flavor.name.toList) ∧
      (∀ (config : Statsd.Config) (flavor : Statsd.Flavor),
        Statsd.Config.toSettings { config with flavor := flavor } format =
            config.respelled format flavor.name ∧
          ∀ d ∈ flavor.name.toList, d.isLower = true) := by
  have hstatsd (config : Statsd.Config) (name : String) (hfits : config.Fits)
      (hamong : (config.respelled format name).Among settings) :
      Statsd.Config.ofSettings? format settings = (Statsd.Flavor.ofName? name).map fun flavor =>
        { config with flavor := flavor } :=
    Statsd.Config.ofSettings?_of_hold h.spans hfits
      (Settings.hold_of_among h (config.nodup_respelled format name) hamong)
  refine ⟨fun config hfits hamong => ?_, fun config hfits hamong => ?_,
    fun config hfits hamong => ?_, hstatsd, fun _ _ => Statsd.Flavor.ofName?_eq_some,
    fun config flavor => ⟨rfl, flavor.isLower_of_mem_name⟩⟩
  · exact StepConfig.ofSettings?_of_hold h.spans hfits
      (Settings.hold_of_among h (config.nodup_keys format) hamong)
  · have hname : Statsd.Flavor.ofName? config.flavor.name = some config.flavor :=
      Statsd.Flavor.ofName?_eq_some.2 (List.forall₂_same.2 fun _ _ => .inl rfl)
    have hread := hstatsd config config.flavor.name hfits hamong
    rw [hname] at hread
    exact hread
  · exact NewRelic.Config.ofSettings?_of_hold h.spans hfits
      (Settings.hold_of_among h (config.nodup_keys format) hamong)

/-- An exporter that is not valid, with the longest step, is found in reverse order among other
settings, and its flavor is read in mixed case. -/
theorem settings_round_trip_reversed :
    let format : SettingsFormat := .standard
    let step : StepConfig := ⟨false, Span.longest, 0⟩
    let config : Statsd.Config := ⟨step, .sysdig, "", 0, .tcp, UInt64.size - 1⟩
    let written := config.respelled format "SysDig"
    format.Documented ∧ (∀ e ∈ [("api_key", Setting.unusable)], e.1 ∉ written.map Prod.fst) ∧
      config.Fits ∧ Statsd.Config.ofSettings? format
        (written.reverse ++ [("api_key", .unusable)]) = some config := by
  intro format step config written
  have hformat : format.Documented := SettingsFormat.documented_standard
  have hothers : ∀ e ∈ [("api_key", Setting.unusable)], e.1 ∉ written.map Prod.fst := by
    simp [written, Statsd.Config.respelled_eq, StepConfig.toSettings]
  have hfits : config.Fits := by
    unfold Statsd.Config.Fits StepConfig.Fits
    decide
  obtain ⟨-, -, -, hrespelled, hname, -⟩ :=
    settings_round_trip hformat (written.reverse ++ [("api_key", .unusable)])
  have hread := hrespelled config "SysDig" hfits
    ⟨[("api_key", .unusable)], hothers, (List.reverse_perm written).append_right _⟩
  have hsysdig : Statsd.Flavor.ofName? "SysDig" = some .sysdig := (hname _ _).2 (by decide)
  rw [hsysdig] at hread
  exact ⟨hformat, hothers, hfits, hread⟩

end Telemetry
