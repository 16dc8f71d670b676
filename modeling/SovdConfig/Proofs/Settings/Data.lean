import SovdConfig.Proofs.Json.Decoding
import SovdConfig.Settings.Decoder

namespace SovdConfig

/-!
# Settings as JSON data

Main definitions: `jsonLoggingSlots`, `jsonGeneratorSlots`, `jsonSettingsSlots`, what is read into
the fields of the sections and of the whole.

Main statement: `Settings.decoder_reads`, settings are read from their fields.
-/

open Json (Tree)
open Json.Decoder (Matches field_matches map_reads string_reads unsigned_reads optional_reads)

/-- A number of 16 bits that a value is. -/
def Json.Tree.asWord? (v : Tree) : Option UInt16 := (v.asUnsigned? 65535).map .ofNat

/-- A number of 8 bits that a value is. -/
def Json.Tree.asByte? (v : Tree) : Option UInt8 := (v.asUnsigned? 255).map .ofNat

/-- The numbers of 16 bits are kept. -/
theorem toNat_word : ∀ k ≤ 65535, (UInt16.ofNat k).toNat = k :=
  fun _ hk => UInt16.toNat_ofNat_of_lt' (Nat.lt_succ_of_le hk)

/-- The numbers of 8 bits are kept. -/
theorem toNat_byte : ∀ k ≤ 255, (UInt8.ofNat k).toNat = k :=
  fun _ hk => UInt8.toNat_ofNat_of_lt' (Nat.lt_succ_of_le hk)

/-- What is read into the fields of the section `logging`. -/
def jsonLoggingSlots : List (Slot Tree LoggingSettings) :=
  [.ofField "level" (Tree.asVariant? LogLevel.ofName?) fun level s => { s with level },
   .ofField "file" (Tree.asOptional? Tree.asString?) fun file s => { s with file }]

/-- What is read into the fields of the section `generator`. -/
def jsonGeneratorSlots : List (Slot Tree GeneratorSettings) :=
  [.ofField "server_host" Tree.asString? fun serverHost s => { s with serverHost },
   .ofField "server_port" Tree.asWord? fun serverPort s => { s with serverPort },
   .ofField "interface" Tree.asString? fun interface s => { s with interface },
   .ofField "isotp_padding" Tree.asByte? fun isotpPadding s => { s with isotpPadding },
   .ofField "doip_port" Tree.asWord? fun doipPort s => { s with doipPort },
   .ofField "doip_source_address" Tree.asWord?
     fun doipSourceAddress s => { s with doipSourceAddress },
   .ofField "did_store_path" Tree.asString? fun didStorePath s => { s with didStorePath }]

/-- What is read into the fields of all settings. -/
def jsonSettingsSlots : List (Slot Tree Settings) :=
  [.ofField "$schema" (Tree.asOptional? Tree.asString?) fun schema s => { s with schema },
   .ofField "logging" (Tree.asRecord? jsonLoggingSlots {}) fun logging s => { s with logging },
   .ofField "generator" (Tree.asRecord? jsonGeneratorSlots {})
     fun generator s => { s with generator }]

/-- The section `logging` is read from its fields. -/
theorem LoggingSettings.decoder_reads : decoder.Reads (Tree.asRecord? jsonLoggingSlots {}) := by
  have hfields : Matches _ jsonLoggingSlots :=
    .cons (field_matches (Json.Decoder.variant_reads LogLevel.names _) _ _) <|
      .cons (field_matches (optional_reads string_reads) _ _) .nil
  exact Json.Decoder.record_reads hfields (by simp [jsonLoggingSlots]) (by decide) _ _

/-- The section `generator` is read from its fields. -/
theorem GeneratorSettings.decoder_reads :
    decoder.Reads (Tree.asRecord? jsonGeneratorSlots {}) := by
  have hword : Json.Decoder.word.Reads Tree.asWord? := map_reads (unsigned_reads _ _) _
  have hbyte : Json.Decoder.byte.Reads Tree.asByte? := map_reads (unsigned_reads _ _) _
  have hfields : Matches _ jsonGeneratorSlots :=
    .cons (field_matches string_reads _ _) <|
      .cons (field_matches hword _ _) <|
      .cons (field_matches string_reads _ _) <|
      .cons (field_matches hbyte _ _) <|
      .cons (field_matches hword _ _) <|
      .cons (field_matches hword _ _) <|
      .cons (field_matches string_reads _ _) .nil
  exact Json.Decoder.record_reads hfields (by simp [jsonGeneratorSlots]) (by decide) _ _

/-- All settings are read from their fields. -/
theorem Settings.decoder_reads : decoder.Reads (Tree.asRecord? jsonSettingsSlots {}) := by
  have hfields : Matches _ jsonSettingsSlots :=
    .cons (field_matches (optional_reads string_reads) _ _) <|
      .cons (field_matches LoggingSettings.decoder_reads _ _) <|
      .cons (field_matches GeneratorSettings.decoder_reads _ _) .nil
  exact Json.Decoder.record_reads hfields (by simp [jsonSettingsSlots]) (by decide) _ _

/-- A record with one part is what that part makes of the default. -/
theorem asRecord?_singleton {α σ : Type} {slots : List (Slot Tree σ)} {key : String}
    {read : Tree → Option α} {set : α → σ → σ}
    (hslot : slotOf? slots key = some (.ofField key read set)) (default : σ) (v : Tree) :
    Tree.asRecord? slots default (.object [(key, v)]) = (read v).map fun a => set a default := by
  have hparts : (Tree.object [(key, v)]).parts? (slots.map Slot.key) = some [(key, v)] :=
    if_pos fun name _ => Nat.le_trans List.count_le_length (by simp)
  rw [Tree.asRecord?, hparts, Option.bind_some]
  simp only [fill, hslot, Slot.ofField]
  cases read v <;> rfl

end SovdConfig
