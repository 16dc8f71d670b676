import SovdConfig.Json.Decoder
import SovdConfig.Settings.Basic

namespace SovdConfig

/-!
# Settings as JSON data

Main definitions:

* `GeneratorSettings.decoder`, `LoggingSettings.decoder`, `Settings.decoder` — the typed readers;
* `Settings.ofJson` — the settings that a JSON text holds.

A setting that the data leaves out has its default; unknown members are ignored.
-/

open Json (Decoder)
open Json.Decoder (field)

/-- The names of the log levels, as they are listed in messages. -/
def LogLevel.names : List String := LogLevel.all.map LogLevel.name

/-- A log level by its name. -/
def LogLevel.decoder : Decoder LogLevel := Decoder.variant names ofName?

/-- The settings of the section `logging`. -/
def LoggingSettings.decoder : Decoder LoggingSettings :=
  Decoder.record "LoggingConfig"
    [field "level" LogLevel.decoder fun level s => { s with level },
     field "file" (.optional .string) fun file s => { s with file }]
    {}

/-- The settings of the section `generator`. -/
def GeneratorSettings.decoder : Decoder GeneratorSettings :=
  Decoder.record "GeneratorConfig"
    [field "server_host" .string fun serverHost s => { s with serverHost },
     field "server_port" .word fun serverPort s => { s with serverPort },
     field "interface" .string fun interface s => { s with interface },
     field "isotp_padding" .byte fun isotpPadding s => { s with isotpPadding },
     field "doip_port" .word fun doipPort s => { s with doipPort },
     field "doip_source_address" .word fun doipSourceAddress s => { s with doipSourceAddress },
     field "did_store_path" .string fun didStorePath s => { s with didStorePath }]
    {}

/-- All settings. -/
def Settings.decoder : Decoder Settings :=
  Decoder.record "AppConfig"
    [field "$schema" (.optional .string) fun schema s => { s with schema },
     field "logging" LoggingSettings.decoder fun logging s => { s with logging },
     field "generator" GeneratorSettings.decoder fun generator s => { s with generator }]
    {}

/-- The generator's settings that a JSON text holds. -/
def GeneratorSettings.ofJson (text : String) : Except Json.TextError GeneratorSettings :=
  decoder.ofText text

/-- The generator's settings that a JSON value holds; a missing value holds the defaults. -/
def GeneratorSettings.ofValue (value : Json) : Except Mismatch GeneratorSettings :=
  decoder.ofValue? {} value

/-- The settings that a JSON text holds. -/
def Settings.ofJson (text : String) : Except Json.TextError Settings := decoder.ofText text

end SovdConfig
