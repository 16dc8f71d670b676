import SovdConfig.Layer.Fault
import SovdConfig.Settings.Basic
import SovdConfig.Text.Lowercase

namespace SovdConfig

/-!
# Settings from layered data

Main definitions:

* `Datum.toText`, `Datum.toUnsigned`, `Datum.toLevel` — the conversions to the types of settings;
* `Datum.toRecord` — a section, from a table or from a list of its settings in order;
* `Datum.toSettings` — all settings.

Conversions are generous: numbers may be written as text, as doubles or as truth values, and texts
as numbers or truth values.  What is not given keeps its default.
-/

/-- What is read from a datum. -/
abbrev FromDatum (α : Type) := Datum → Except LayerFault α

namespace Datum

/-- The datum is of another kind; its source is shown. -/
def otherKind {α : Type} (d : Datum) (expected : String) : Except LayerFault α :=
  .error (.mismatch (.kind d.found expected) [] d.origin)

/-- The text of a value without parts. -/
def toText : FromDatum String
  | scalar _ (.text s) => .ok s
  | scalar _ (.boolean b) => .ok (if b then "true" else "false")
  | scalar _ (.integer n) => .ok (integerText n)
  | scalar _ (.double x) => .ok (x.text .plain)
  | d => d.otherKind "a string"

/-- The truth value that a text in lower case stands for. -/
def truthValue? (lower : String) : Option Bool :=
  if lower = "true" ∨ lower = "on" ∨ lower = "yes" then some true
  else if lower = "false" ∨ lower = "off" ∨ lower = "no" then some false
  else none

/-- The greatest unsigned integer of 64 bits. -/
def greatest : Nat := twoPower 64 - 1

/-- The natural number nearest to a double, within 64 bits; zero if it is no number. -/
def nearestNat (x : Binary64) : Nat :=
  if x.isNaN then 0
  else if x.isFinite then min x.roundToInt.toNat greatest
  else if x.negative then 0
  else greatest

/-- The unsigned integer of 64 bits that a value without parts stands for. -/
def toNatural : FromDatum Nat
  | scalar origin (.integer n) =>
    if 0 ≤ n then .ok n.toNat
    else
      .error (.mismatch
        (.kind (.named ("64-bit integer " ++ Found.ticked (integerText n)))
          "an unsigned 64 bit or less integer") [] origin)
  | scalar origin (.text s) =>
    match truthValue? (Text.lowercase s) with
    | some b => .ok (if b then 1 else 0)
    | none =>
      match (Numeral.natural? s.toList).filter fun n => n ≤ greatest with
      | some n => .ok n
      | none => otherKind (scalar origin (.text s)) "an integer"
  | scalar _ (.boolean b) => .ok (if b then 1 else 0)
  | scalar _ (.double x) => .ok (nearestNat x)
  | d => d.otherKind "an integer"

/-- The unsigned integer of so many bits that a value without parts stands for. -/
def toUnsigned (bits : Nat) : FromDatum Nat := fun d => do
  let n ← d.toNatural
  if fitsUnsigned bits n then .ok n
  else
    .error (.mismatch
      (.kind (.named ("64-bit unsigned integer " ++ Found.ticked (decimalText n)))
        ("an unsigned " ++ decimalText bits ++ " bit integer")) [] none)

/-- An integer of 16 bits. -/
def toWord : FromDatum UInt16 := fun d => (d.toUnsigned 16).map UInt16.ofNat

/-- An integer of 8 bits. -/
def toByte : FromDatum UInt8 := fun d => (d.toUnsigned 8).map UInt8.ofNat

/-- A datum that may be missing. -/
def toOption {α : Type} (read : FromDatum α) : FromDatum (Option α)
  | nothing => .ok none
  | d => (read d).map some

/-- The level of a name. -/
def levelOf (name : String) : Except LayerFault LogLevel :=
  match LogLevel.ofName? name with
  | some level => .ok level
  | none => .error (.noVariant "LogLevel" name [])

/-- A log level: its name, or a table with that name as its only key. -/
def toLevel : FromDatum LogLevel
  | scalar _ (.text name) => levelOf name
  | table _ [(name, _)] => levelOf name
  | _ => .error (.notVariant "LogLevel" [])

/-- A setting of a section: its key, and how it is read into the section. -/
structure Setting (σ : Type) where
  key : String
  read : FromDatum (σ → σ)

/-- A setting of the given type. -/
def setting {α σ : Type} (key : String) (read : FromDatum α) (set : α → σ → σ) : Setting σ :=
  ⟨key, fun d => (read d).map set⟩

/-- The members of a table, each read into its setting; other members are passed over. -/
def readMembers {σ : Type} (settings : List (Setting σ)) :
    List (String × Datum) → σ → Except LayerFault σ
  | [], s => .ok s
  | (key, d) :: rest, s =>
    match settings.find? (·.key = key) with
    | none => readMembers settings rest s
    | some setting =>
      match setting.read d with
      | .ok update => readMembers settings rest (update s)
      | .error e => .error (e.under (.key key))

/-- The items of a list, each read into the setting at its place; further items are passed over. -/
def readItems {σ : Type} (index : Nat) :
    List (Setting σ) → List Datum → σ → Except LayerFault σ
  | setting :: settings, d :: rest, s =>
    match setting.read d with
    | .ok update => readItems (index + 1) settings rest (update s)
    | .error e => .error (e.under (.index index))
  | _, _, s => .ok s

/-- A section that starts from its default. -/
def toRecord {σ : Type} (typeName : String) (settings : List (Setting σ)) (default : σ) :
    FromDatum σ
  | table _ members => readMembers settings members default
  | list _ items => readItems 0 settings items default
  | d => .error (.mismatch (.kind d.found ("struct " ++ typeName)) [] none)

/-- The settings of the section `logging`. -/
def toLogging : FromDatum LoggingSettings :=
  toRecord "LoggingConfig"
    [setting "level" toLevel fun level s => { s with level },
     setting "file" (toOption toText) fun file s => { s with file }]
    {}

/-- The settings of the section `generator`. -/
def toGenerator : FromDatum GeneratorSettings :=
  toRecord "GeneratorConfig"
    [setting "server_host" toText fun serverHost s => { s with serverHost },
     setting "server_port" toWord fun serverPort s => { s with serverPort },
     setting "interface" toText fun interface s => { s with interface },
     setting "isotp_padding" toByte fun isotpPadding s => { s with isotpPadding },
     setting "doip_port" toWord fun doipPort s => { s with doipPort },
     setting "doip_source_address" toWord fun doipSourceAddress s => { s with doipSourceAddress },
     setting "did_store_path" toText fun didStorePath s => { s with didStorePath }]
    {}

/-- All settings. -/
def toSettings : FromDatum Settings :=
  toRecord "AppConfig"
    [setting "$schema" (toOption toText) fun schema s => { s with schema },
     setting "logging" toLogging fun logging s => { s with logging },
     setting "generator" toGenerator fun generator s => { s with generator }]
    {}

end Datum

end SovdConfig
