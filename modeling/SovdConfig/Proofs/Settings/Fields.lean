import Mathlib.Tactic.MkIffOfInductiveProp
import SovdConfig.Proofs.Record
import SovdConfig.Settings.Basic

namespace SovdConfig

/-!
# Settings field by field

The settings are read from named parts of some kind.  Main definitions:

* `Readings` — how each kind of setting is read from a part;
* `LoggingGiven`, `GeneratorGiven`, `SettingsGiven` — whether the fields are what the parts under
  their names are read as, or the defaults where there is no part.

Main statements: `Readings.fill_loggingSlots_iff`, `fill_generatorSlots_iff`,
`fill_settingsSlots_iff` — the settings are filled from parts exactly if they are given by them.
-/

variable {δ : Type}

/-- How each kind of setting is read from a part. -/
structure Readings (δ : Type) where
  level : δ → Option LogLevel
  text : δ → Option String
  optionalText : δ → Option (Option String)
  word : δ → Option UInt16
  byte : δ → Option UInt8

namespace Readings

variable (as : Readings δ)

/-- The slots of the section `logging`. -/
def loggingSlots : List (Slot δ LoggingSettings) :=
  [.ofField "level" as.level fun level s => { s with level },
   .ofField "file" as.optionalText fun file s => { s with file }]

/-- The slots of the section `generator`. -/
def generatorSlots : List (Slot δ GeneratorSettings) :=
  [.ofField "server_host" as.text fun serverHost s => { s with serverHost },
   .ofField "server_port" as.word fun serverPort s => { s with serverPort },
   .ofField "interface" as.text fun interface s => { s with interface },
   .ofField "isotp_padding" as.byte fun isotpPadding s => { s with isotpPadding },
   .ofField "doip_port" as.word fun doipPort s => { s with doipPort },
   .ofField "doip_source_address" as.word
     fun doipSourceAddress s => { s with doipSourceAddress },
   .ofField "did_store_path" as.text fun didStorePath s => { s with didStorePath }]

/-- The slots of all settings, with those that read the sections. -/
def settingsSlots (logging : δ → Option LoggingSettings)
    (generator : δ → Option GeneratorSettings) : List (Slot δ Settings) :=
  [.ofField "$schema" as.optionalText fun schema s => { s with schema },
   .ofField "logging" logging fun logging s => { s with logging },
   .ofField "generator" generator fun generator s => { s with generator }]

/-- Whether the settings of the section `logging` are given by parts. -/
@[mk_iff]
structure LoggingGiven (known : String → Option δ) (s : LoggingSettings) : Prop where
  level : Gives (known "level") as.level .warn s.level
  file : Gives (known "file") as.optionalText none s.file

/-- Whether the settings of the section `generator` are given by parts. -/
@[mk_iff]
structure GeneratorGiven (known : String → Option δ) (s : GeneratorSettings) : Prop where
  serverHost : Gives (known "server_host") as.text "0.0.0.0" s.serverHost
  serverPort : Gives (known "server_port") as.word 18080 s.serverPort
  interface : Gives (known "interface") as.text "vcan0" s.interface
  isotpPadding : Gives (known "isotp_padding") as.byte 0xCC s.isotpPadding
  doipPort : Gives (known "doip_port") as.word 13400 s.doipPort
  doipSourceAddress : Gives (known "doip_source_address") as.word 0x0E80 s.doipSourceAddress
  didStorePath : Gives (known "did_store_path") as.text "config/dids.yaml" s.didStorePath

/-- Whether all settings are given by parts, the sections being read in some way. -/
@[mk_iff]
structure SettingsGiven (logging : δ → Option LoggingSettings)
    (generator : δ → Option GeneratorSettings) (known : String → Option δ) (s : Settings) :
    Prop where
  schema : Gives (known "$schema") as.optionalText none s.schema
  logging : Gives (known "logging") logging {} s.logging
  generator : Gives (known "generator") generator {} s.generator

variable {as} {parts : List (String × δ)}

/-- The section `logging` is filled with what its parts give. -/
theorem fill_loggingSlots_iff
    (hcount : ∀ slot ∈ as.loggingSlots, (parts.map Prod.fst).count slot.key ≤ 1)
    {s : LoggingSettings} :
    fill as.loggingSlots parts {} = some s ↔ as.LoggingGiven (fun key => parts.lookup key) s := by
  simp only [loggingSlots, Slot.ofField, List.forall_mem_cons] at hcount
  obtain ⟨hlevel, hfile, -⟩ := hcount
  refine fill_eq_some_iff (fun t ht => ⟨?_, ?_⟩) (fun t u ht hu => ?_) fun hu => ?_
  · exact fill_given LoggingSettings.level rfl (fun _ _ => rfl) (by simp [loggingSlots]) hlevel ht
  · exact fill_given LoggingSettings.file rfl (fun _ _ => rfl) (by simp [loggingSlots]) hfile ht
  · cases t
    cases u
    simpa using ⟨ht.level.unique hu.level, ht.file.unique hu.file⟩
  · simp only [loggingSlots, List.forall_mem_cons]
    exact ⟨hu.level.isSome_read hlevel _, hu.file.isSome_read hfile _, by simp⟩

/-- The section `generator` is filled with what its parts give. -/
theorem fill_generatorSlots_iff
    (hcount : ∀ slot ∈ as.generatorSlots, (parts.map Prod.fst).count slot.key ≤ 1)
    {s : GeneratorSettings} :
    fill as.generatorSlots parts {} = some s ↔
      as.GeneratorGiven (fun key => parts.lookup key) s := by
  simp only [generatorSlots, Slot.ofField, List.forall_mem_cons] at hcount
  obtain ⟨hhost, hport, hinterface, hpadding, hdoip, hsource, hstore, -⟩ := hcount
  -- each setting has a field of its own, which the other slots leave alone
  have hgiven := fun {α : Type} (get : GeneratorSettings → α) {key : String}
      {read : δ → Option α} {set : α → GeneratorSettings → GeneratorSettings}
      (hslot : slotOf? as.generatorSlots key = some (.ofField key read set))
      (hset : ∀ a s, get (set a s) = a) (honly : OnlySlot as.generatorSlots key get)
      (hcount : (parts.map Prod.fst).count key ≤ 1)
      {t : GeneratorSettings} (ht : fill as.generatorSlots parts {} = some t) =>
    fill_given get hslot hset honly hcount ht
  refine fill_eq_some_iff
    (fun t ht => ⟨?_, ?_, ?_, ?_, ?_, ?_, ?_⟩) (fun t u ht hu => ?_) fun hu => ?_
  · exact hgiven GeneratorSettings.serverHost rfl (fun _ _ => rfl) (by simp [generatorSlots])
      hhost ht
  · exact hgiven GeneratorSettings.serverPort rfl (fun _ _ => rfl) (by simp [generatorSlots])
      hport ht
  · exact hgiven GeneratorSettings.interface rfl (fun _ _ => rfl) (by simp [generatorSlots])
      hinterface ht
  · exact hgiven GeneratorSettings.isotpPadding rfl (fun _ _ => rfl) (by simp [generatorSlots])
      hpadding ht
  · exact hgiven GeneratorSettings.doipPort rfl (fun _ _ => rfl) (by simp [generatorSlots])
      hdoip ht
  · exact hgiven GeneratorSettings.doipSourceAddress rfl (fun _ _ => rfl)
      (by simp [generatorSlots]) hsource ht
  · exact hgiven GeneratorSettings.didStorePath rfl (fun _ _ => rfl) (by simp [generatorSlots])
      hstore ht
  · cases t
    cases u
    simpa using ⟨ht.serverHost.unique hu.serverHost, ht.serverPort.unique hu.serverPort,
      ht.interface.unique hu.interface, ht.isotpPadding.unique hu.isotpPadding,
      ht.doipPort.unique hu.doipPort, ht.doipSourceAddress.unique hu.doipSourceAddress,
      ht.didStorePath.unique hu.didStorePath⟩
  · simp only [generatorSlots, List.forall_mem_cons]
    exact ⟨hu.serverHost.isSome_read hhost _, hu.serverPort.isSome_read hport _,
      hu.interface.isSome_read hinterface _, hu.isotpPadding.isSome_read hpadding _,
      hu.doipPort.isSome_read hdoip _, hu.doipSourceAddress.isSome_read hsource _,
      hu.didStorePath.isSome_read hstore _, by simp⟩

/-- All settings are filled with what their parts give. -/
theorem fill_settingsSlots_iff {logging : δ → Option LoggingSettings}
    {generator : δ → Option GeneratorSettings}
    (hcount : ∀ slot ∈ as.settingsSlots logging generator,
      (parts.map Prod.fst).count slot.key ≤ 1) {s : Settings} :
    fill (as.settingsSlots logging generator) parts {} = some s ↔
      as.SettingsGiven logging generator (fun key => parts.lookup key) s := by
  simp only [settingsSlots, Slot.ofField, List.forall_mem_cons] at hcount
  obtain ⟨hschema, hlogging, hgenerator, -⟩ := hcount
  refine fill_eq_some_iff (fun t ht => ⟨?_, ?_, ?_⟩) (fun t u ht hu => ?_) fun hu => ?_
  · exact fill_given Settings.schema rfl (fun _ _ => rfl) (by simp [settingsSlots]) hschema ht
  · exact fill_given Settings.logging rfl (fun _ _ => rfl) (by simp [settingsSlots]) hlogging ht
  · exact fill_given Settings.generator rfl (fun _ _ => rfl) (by simp [settingsSlots])
      hgenerator ht
  · cases t
    cases u
    simpa using ⟨ht.schema.unique hu.schema, ht.logging.unique hu.logging,
      ht.generator.unique hu.generator⟩
  · simp only [settingsSlots, List.forall_mem_cons]
    exact ⟨hu.schema.isSome_read hschema _, hu.logging.isSome_read hlogging _,
      hu.generator.isSome_read hgenerator _, by simp⟩

end Readings

end SovdConfig
