namespace SovdConfig

/-!
# Settings

What the tool can be told by its configuration file and the environment.  Main definitions:

* `LogLevel` — how much is logged;
* `LoggingSettings`, `GeneratorSettings`, `Settings` — the two sections and the whole.

The default of every setting stands with its field.
-/

/-- The name of the tool. -/
def appName : String := "ecucfg"

/-- The bus interface used when none is given. -/
def defaultInterface : String := "vcan0"

/-- How much is logged: each level includes those before it. -/
inductive LogLevel
  | error
  | warn
  | info
  | debug
  | trace
deriving DecidableEq, Repr, Inhabited

namespace LogLevel

/-- All levels, from the least to the most. -/
def all : List LogLevel := [.error, .warn, .info, .debug, .trace]

/-- The name of a level. -/
def name : LogLevel → String
  | error => "error"
  | warn => "warn"
  | info => "info"
  | debug => "debug"
  | trace => "trace"

/-- The level of a name. -/
def ofName? (text : String) : Option LogLevel := all.find? (·.name = text)

/-- The name of a level in log lines. -/
def label : LogLevel → String
  | error => "ERROR"
  | warn => "WARN"
  | info => "INFO"
  | debug => "DEBUG"
  | trace => "TRACE"

/-- How many levels are at most as much as this one. -/
def rank : LogLevel → Nat
  | error => 1
  | warn => 2
  | info => 3
  | debug => 4
  | trace => 5

/-- A level is found by its name. -/
theorem ofName?_name (level : LogLevel) : ofName? level.name = some level := by
  cases level <;> decide

end LogLevel

/-- The settings of the section `logging`. -/
structure LoggingSettings where
  level : LogLevel := .warn
  file : Option String := none
deriving DecidableEq, Repr, Inhabited

/-- The settings of the section `generator`, which go into every generated configuration. -/
structure GeneratorSettings where
  serverHost : String := "0.0.0.0"
  serverPort : UInt16 := 18080
  interface : String := defaultInterface
  isotpPadding : UInt8 := 0xCC
  doipPort : UInt16 := 13400
  doipSourceAddress : UInt16 := 0x0E80
  didStorePath : String := "config/dids.yaml"
deriving DecidableEq, Repr

instance : Inhabited GeneratorSettings := ⟨{}⟩

/-- All settings: a reference to the schema of the file, and the two sections. -/
structure Settings where
  schema : Option String := none
  logging : LoggingSettings := {}
  generator : GeneratorSettings := {}
deriving DecidableEq, Repr, Inhabited

end SovdConfig
