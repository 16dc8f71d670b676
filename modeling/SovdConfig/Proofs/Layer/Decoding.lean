import Mathlib.Tactic.MkIffOfInductiveProp
import SovdConfig.Layer.Decoder
import SovdConfig.Proofs.Attempt
import SovdConfig.Proofs.Layer.Sections
import SovdConfig.Proofs.Settings.Fields

namespace SovdConfig

/-!
# Settings from layered data

Main definitions:

* `LoggingAre`, `GeneratorAre`, `SettingsAre` — whether settings are what the data under their keys
  are read as, or the defaults where there is nothing.

Main statement: `Datum.toOption_toSettings_iff`, data with sections are read as exactly those
settings; so nothing is read if one of the data cannot be.
-/

open Datum (toLevel toText toWord toByte)

/-- A reader of data without its reasons. -/
def reads? {α : Type} (read : FromDatum α) (d : Datum) : Option α := (read d).toOption

/-- Whether the settings of the section `logging` are what is known. -/
@[mk_iff]
structure LoggingAre (known : String → Option Datum) (s : LoggingSettings) : Prop where
  level : Gives (known "level") (reads? toLevel) .warn s.level
  file : Gives (known "file") (reads? (Datum.toOption toText)) none s.file

/-- Whether the settings of the section `generator` are what is known. -/
@[mk_iff]
structure GeneratorAre (known : String → Option Datum) (s : GeneratorSettings) : Prop where
  serverHost : Gives (known "server_host") (reads? toText) "0.0.0.0" s.serverHost
  serverPort : Gives (known "server_port") (reads? toWord) 18080 s.serverPort
  interface : Gives (known "interface") (reads? toText) "vcan0" s.interface
  isotpPadding : Gives (known "isotp_padding") (reads? toByte) 0xCC s.isotpPadding
  doipPort : Gives (known "doip_port") (reads? toWord) 13400 s.doipPort
  doipSourceAddress :
    Gives (known "doip_source_address") (reads? toWord) 0x0E80 s.doipSourceAddress
  didStorePath : Gives (known "did_store_path") (reads? toText) "config/dids.yaml" s.didStorePath

/-- Whether settings are what is known of them. -/
@[mk_iff]
structure SettingsAre (known : String → String → Option Datum) (s : Settings) : Prop where
  schema : s.schema = none
  logging : LoggingAre (known "logging") s.logging
  generator : GeneratorAre (known "generator") s.generator

namespace Datum

/-- The slot of a setting. -/
def Setting.slot {σ : Type} (setting : Setting σ) : Slot Datum σ :=
  ⟨setting.key, fun d => (setting.read d).toOption⟩

/-- The slot of a setting of some type is that of a field. -/
theorem slot_setting {α σ : Type} (key : String) (read : FromDatum α) (set : α → σ → σ) :
    (setting key read set).slot = .ofField key (reads? read) set := by
  simp only [Setting.slot, setting, Slot.ofField, Slot.mk.injEq, true_and]
  exact funext fun d => toOption_map _ _

/-- The members of a table are read into the slots of their settings. -/
theorem toOption_readMembers {σ : Type} (settings : List (Setting σ))
    (members : List (String × Datum)) (s : σ) :
    (readMembers settings members s).toOption = fill (settings.map Setting.slot) members s := by
  induction members generalizing s with
  | nil => rfl
  | cons m rest ih =>
    obtain ⟨key, d⟩ := m
    have hslot : slotOf? (settings.map Setting.slot) key =
        (settings.find? (·.key = key)).map Setting.slot := by
      rw [slotOf?, List.find?_map]
      rfl
    rw [readMembers, fill, hslot]
    cases settings.find? (·.key = key) with
    | none => exact ih s
    | some setting =>
      simp only [Option.map_some, Setting.slot]
      cases setting.read d with
      | error e => rfl
      | ok update => exact ih (update s)

/-- How data are read as settings. -/
def readings : Readings Datum where
  level := reads? toLevel
  text := reads? toText
  optionalText := reads? (toOption toText)
  word := reads? toWord
  byte := reads? toByte

/-- The section `logging` is read as what is known of its settings. -/
theorem toOption_toLogging_iff {origin : Option String} {members : List (String × Datum)}
    (hnodup : (members.map Prod.fst).Nodup) {s : LoggingSettings} :
    (toLogging (.table origin members)).toOption = some s ↔
      LoggingAre (fun key => members.lookup key) s := by
  have hcount := fun key => List.nodup_iff_count_le_one.1 hnodup key
  have hslots : (toLogging (.table origin members)).toOption =
      fill readings.loggingSlots members {} := by
    rw [toLogging, toRecord, toOption_readMembers]
    simp only [List.map_cons, List.map_nil, slot_setting]
    rfl
  rw [hslots, Readings.fill_loggingSlots_iff fun _ _ => hcount _, Readings.loggingGiven_iff,
    loggingAre_iff]
  rfl

/-- The section `generator` is read as what is known of its settings. -/
theorem toOption_toGenerator_iff {origin : Option String} {members : List (String × Datum)}
    (hnodup : (members.map Prod.fst).Nodup) {s : GeneratorSettings} :
    (toGenerator (.table origin members)).toOption = some s ↔
      GeneratorAre (fun key => members.lookup key) s := by
  have hcount := fun key => List.nodup_iff_count_le_one.1 hnodup key
  have hslots : (toGenerator (.table origin members)).toOption =
      fill readings.generatorSlots members {} := by
    rw [toGenerator, toRecord, toOption_readMembers]
    simp only [List.map_cons, List.map_nil, slot_setting]
    rfl
  rw [hslots, Readings.fill_generatorSlots_iff fun _ _ => hcount _, Readings.generatorGiven_iff,
    generatorAre_iff]
  rfl

/-- Whether settings are read from the members of the whole. -/
@[mk_iff]
structure MembersGive (members : List (String × Datum)) (s : Settings) : Prop where
  schema : Gives (members.lookup "$schema") (reads? (toOption toText)) none s.schema
  logging : Gives (members.lookup "logging") (reads? toLogging) {} s.logging
  generator : Gives (members.lookup "generator") (reads? toGenerator) {} s.generator

/-- All settings are read member by member. -/
theorem toOption_toSettings_table_iff {origin : Option String} {members : List (String × Datum)}
    (hnodup : (members.map Prod.fst).Nodup) {s : Settings} :
    (toSettings (.table origin members)).toOption = some s ↔ MembersGive members s := by
  have hcount := fun key => List.nodup_iff_count_le_one.1 hnodup key
  have hslots : (toSettings (.table origin members)).toOption =
      fill (readings.settingsSlots (reads? toLogging) (reads? toGenerator)) members {} := by
    rw [toSettings, toRecord, toOption_readMembers]
    simp only [List.map_cons, List.map_nil, slot_setting]
    rfl
  rw [hslots, Readings.fill_settingsSlots_iff fun _ _ => hcount _, Readings.settingsGiven_iff,
    membersGive_iff]
  rfl

/-- Data with sections are read as what is known of the settings, and refused if one of the data
    cannot be read. -/
theorem toOption_toSettings_iff {d : Datum} (h : d.Sectioned) {s : Settings} :
    (toSettings d).toOption = some s ↔ SettingsAre d.setting? s := by
  obtain ⟨origin, members, rfl⟩ := h.isTable
  have hmembers : (members.map Prod.fst).Nodup := h.nodup
  have hschema : members.lookup "$schema" = none := h.noSchema
  -- what is known of the settings of a section are the members of its table
  have hsections : ∀ sec ∈ sectionNames, ∃ o ms, members.lookup sec = some (.table o ms) ∧
      (ms.map Prod.fst).Nodup ∧
        (Datum.table origin members).setting? sec = fun key => ms.lookup key := by
    intro sec hsec
    obtain ⟨o, ms, hlookup, hms⟩ := h.sections sec hsec
    have hfound : members.lookup sec = some (.table o ms) := hlookup
    refine ⟨o, ms, hfound, hms, funext fun key => ?_⟩
    rw [setting?, hlookup]
    rfl
  obtain ⟨o, logging, hlogging, hnodup, hsettings⟩ := hsections "logging" (by simp [sectionNames])
  obtain ⟨o', generator, hgenerator, hnodup', hsettings'⟩ :=
    hsections "generator" (by simp [sectionNames])
  rw [toOption_toSettings_table_iff hmembers]
  constructor
  · rintro ⟨hs₁, hs₂, hs₃⟩
    rw [hschema] at hs₁
    rw [hlogging] at hs₂
    rw [hgenerator] at hs₃
    refine ⟨hs₁, ?_, ?_⟩
    · rw [hsettings]
      exact (toOption_toLogging_iff hnodup).1 hs₂
    · rw [hsettings']
      exact (toOption_toGenerator_iff hnodup').1 hs₃
  · rintro ⟨hs₁, hs₂, hs₃⟩
    rw [hsettings] at hs₂
    rw [hsettings'] at hs₃
    refine ⟨?_, ?_, ?_⟩
    · rw [hschema]
      exact hs₁
    · rw [hlogging]
      exact (toOption_toLogging_iff hnodup).2 hs₂
    · rw [hgenerator]
      exact (toOption_toGenerator_iff hnodup').2 hs₃

end Datum

end SovdConfig
