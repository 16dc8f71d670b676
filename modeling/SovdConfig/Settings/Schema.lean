import SovdConfig.Settings.Printer

namespace SovdConfig.Schema

/-!
# The schema of the configuration file

A JSON schema (draft 7) against which editors check a configuration file.  Main definitions:

* `document` — the schema as a value;
* `text` — the schema as text.

The name of the project and its address only enter the first members; everything else is fixed.
-/

/-- A property that is a text with a default. -/
def textProperty (description default : String) : Json :=
  .object
    [("description", .string description),
     ("type", .string "string"),
     ("default", .string default)]

/-- A property that is an unsigned integer of the given number of bits, with a default. -/
def integerProperty (description : String) (bits default : Nat) : Json :=
  .object
    [("description", .string description),
     ("type", .string "integer"),
     ("format", .string ("uint" ++ decimalText bits)),
     ("default", .ofNat default),
     ("maximum", .ofNat (twoPower bits - 1)),
     ("minimum", .ofNat 0)]

/-- A property that has a definition of its own, with a default. -/
def referenceProperty (description definition : String) (default : Json) : Json :=
  .object
    [("description", .string description),
     ("allOf", .array [.object [("$ref", .string ("#/definitions/" ++ definition))]]),
     ("default", default)]

/-- A structure with the given properties. -/
def structureSchema (description : String) (properties : List (String × Json)) : Json :=
  .object
    [("description", .string description),
     ("type", .string "object"),
     ("properties", .object properties)]

/-- One of the values of an enumeration. -/
def constantSchema (description value : String) : Json :=
  .object
    [("description", .string description),
     ("type", .string "string"),
     ("const", .string value)]

/-- What a log level lets through. -/
def levelDescription : LogLevel → String
  | .error => "Only emit error-level messages."
  | .warn => "Emit warnings and errors (default)."
  | .info => "Emit informational messages and above."
  | .debug => "Emit debug diagnostics and above."
  | .trace => "Emit all messages including fine-grained traces."

/-- The values of a log level. -/
def levelSchema : Json :=
  .object
    [("description", .string "Log level enumeration for schema validation."),
     ("oneOf",
      .array (LogLevel.all.map fun level => constantSchema (levelDescription level) level.name))]

/-- The properties of the section `generator`, by name. -/
def generatorProperties : List (String × Json) :=
  let d : GeneratorSettings := {}
  [("did_store_path",
    textProperty "Path of the DID store referenced from the `[dids]` block." d.didStorePath),
   ("doip_port", integerProperty "DoIP gateway TCP port." 16 d.doipPort.toNat),
   ("doip_source_address",
    integerProperty "DoIP tester source address." 16 d.doipSourceAddress.toNat),
   ("interface", textProperty "Bus interface used when `--interface` is not given." d.interface),
   ("isotp_padding", integerProperty "ISO-TP frame padding byte." 8 d.isotpPadding.toNat),
   ("server_host", textProperty "Bind address written to the `[server]` block." d.serverHost),
   ("server_port", integerProperty "Port written to the `[server]` block." 16 d.serverPort.toNat)]

/-- The properties of the section `logging`, by name. -/
def loggingProperties : List (String × Json) :=
  [("file",
    .object
      [("description",
        .string "Optional path for log file output. Supports ~ and environment variables."),
       ("type", .array [.string "string", .string "null"])]),
   ("level",
    referenceProperty "Log level (error, warn, info, debug, trace)." "LogLevel"
      (.string (default : LoggingSettings).level.name))]

/-- The defaults of the section `generator`, by name. -/
def generatorDefaults : Json :=
  let d : GeneratorSettings := {}
  .object
    [("did_store_path", .string d.didStorePath),
     ("doip_port", .ofNat d.doipPort.toNat),
     ("doip_source_address", .ofNat d.doipSourceAddress.toNat),
     ("interface", .string d.interface),
     ("isotp_padding", .ofNat d.isotpPadding.toNat),
     ("server_host", .string d.serverHost),
     ("server_port", .ofNat d.serverPort.toNat)]

/-- The properties of the whole file, by name. -/
def properties : List (String × Json) :=
  [("$schema",
    .object
      [("description", .string "JSON Schema reference for editor support"),
       ("type", .string "string")]),
   ("generator",
    referenceProperty "Values interpolated into generated ECU configuration." "GeneratorConfig"
      generatorDefaults),
   ("logging",
    referenceProperty "Logging configuration." "LoggingConfig"
      (.object [("level", .string (default : LoggingSettings).level.name)]))]

/-- The definitions that the properties refer to. -/
def definitions : List (String × Json) :=
  [("GeneratorConfig",
    structureSchema "Values interpolated into generated ECU configuration" generatorProperties),
   ("LogLevel", levelSchema),
   ("LoggingConfig", structureSchema "Logging configuration" loggingProperties)]

/-- The schema for a project of the given name at the given address. -/
def document (project address : String) : Json :=
  .object
    [("$id", .string (address ++ "/schemas/config.schema.json")),
     ("$schema", .string "http://json-schema.org/draft-07/schema#"),
     ("title", .string (project ++ " configuration")),
     ("description", .string ("Configuration schema for " ++ project)),
     ("type", .string "object"),
     ("properties", .object properties),
     ("definitions", .object definitions)]

/-- The text of the schema. -/
def text (project address : String) : String := (document project address).print

end SovdConfig.Schema
