import SovdConfig.Json.Printer
import SovdConfig.Settings.Basic

namespace SovdConfig

/-!
# Writing settings

Main definitions:

* `Settings.toJson` — the settings as a JSON value;
* `Settings.defaultLines` — the default settings as the lines of a TOML document;
* `Settings.defaultFile` — the configuration file that is written for a user to start from.

Settings without a value are left out.
-/

/-- A number of a setting. -/
def Json.ofNat (n : Nat) : Json := .number (.integer n)

/-- The settings of the section `logging`. -/
def LoggingSettings.toJson (s : LoggingSettings) : Json :=
  .object <|
    [("level", .string s.level.name)] ++ (s.file.map fun file => ("file", .string file)).toList

/-- The settings of the section `generator`. -/
def GeneratorSettings.toJson (s : GeneratorSettings) : Json :=
  .object
    [("server_host", .string s.serverHost),
     ("server_port", .ofNat s.serverPort.toNat),
     ("interface", .string s.interface),
     ("isotp_padding", .ofNat s.isotpPadding.toNat),
     ("doip_port", .ofNat s.doipPort.toNat),
     ("doip_source_address", .ofNat s.doipSourceAddress.toNat),
     ("did_store_path", .string s.didStorePath)]

/-- All settings. -/
def Settings.toJson (s : Settings) : Json :=
  .object <|
    (s.schema.map fun schema => ("$schema", .string schema)).toList ++
      [("logging", s.logging.toJson), ("generator", s.generator.toJson)]

/-- A line of the file that is written. -/
def settingLine (key value : String) : String := key ++ " = " ++ value

/-- The lines of the file with the default settings, which need no escapes. -/
def Settings.defaultLines : List String :=
  let d : Settings := {}
  let quoted (value : String) : String := "\"" ++ value ++ "\""
  ["[logging]",
   settingLine "level" (quoted d.logging.level.name),
   "",
   "[generator]",
   settingLine "server_host" (quoted d.generator.serverHost),
   settingLine "server_port" (decimalText d.generator.serverPort.toNat),
   settingLine "interface" (quoted d.generator.interface),
   settingLine "isotp_padding" (decimalText d.generator.isotpPadding.toNat),
   settingLine "doip_port" (decimalText d.generator.doipPort.toNat),
   settingLine "doip_source_address" (decimalText d.generator.doipSourceAddress.toNat),
   settingLine "did_store_path" (quoted d.generator.didStorePath)]

/-- The lines in front of the settings, which name the file. -/
def Settings.fileHeader (path : String) : List String :=
  ["# Configuration for " ++ appName, "# File: " ++ path, ""]

/-- The configuration file with the default settings. -/
def Settings.defaultFile (path : String) : String :=
  String.join ((fileHeader path ++ defaultLines).map (· ++ "\n"))

end SovdConfig
