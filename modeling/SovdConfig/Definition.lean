import SovdConfig.Number.Decimal

namespace SovdConfig

/-!
# Definitions of data identifiers

What a diagnostic store knows of its data identifiers.  Main definitions:

* `AccessLevel`, `DataType` — who may use a value, and how it is encoded;
* `Scaling`, `ValueLayout` — a length for text, a linear conversion for numbers;
* `Definition` — one entry;
* `Definition.standard` — the identification entries that every store starts with;
* `Definition.examples` — operational entries that are only shown as comments.
-/

/-- Who may read or write a value. -/
inductive AccessLevel
  | anySession
  | extendedSession
  | unlocked
deriving DecidableEq, Repr

namespace AccessLevel

/-- All levels. -/
def all : List AccessLevel := [.anySession, .extendedSession, .unlocked]

/-- The word for a level. -/
def name : AccessLevel → String
  | anySession => "public"
  | extendedSession => "extended"
  | unlocked => "protected"

/-- The level of a word, if there is one. -/
def ofName? (text : String) : Option AccessLevel := all.find? (·.name = text)

/-- A level is found by its word. -/
theorem ofName?_name (level : AccessLevel) : ofName? level.name = some level := by
  cases level <;> decide

end AccessLevel

/-- How a value is encoded; numbers of several bytes have the most significant byte first. -/
inductive DataType
  | ascii
  | uint8
  | uint16
  | uint32
  | int8
  | int16
  | int32
  | float32
  | float64
  | string
  | bytes
deriving DecidableEq, Repr

namespace DataType

/-- All encodings. -/
def all : List DataType :=
  [.ascii, .uint8, .uint16, .uint32, .int8, .int16, .int32, .float32, .float64, .string, .bytes]

/-- The word for an encoding. -/
def name : DataType → String
  | ascii => "ascii"
  | uint8 => "uint8"
  | uint16 => "uint16"
  | uint32 => "uint32"
  | int8 => "int8"
  | int16 => "int16"
  | int32 => "int32"
  | float32 => "float32"
  | float64 => "float64"
  | string => "string"
  | bytes => "bytes"

/-- The encoding of a word, if there is one. -/
def ofName? (text : String) : Option DataType := all.find? (·.name = text)

/-- An encoding is found by its word. -/
theorem ofName?_name (type : DataType) : ofName? type.name = some type := by
  cases type <;> decide

end DataType

/-- A linear conversion from the raw to the physical value. -/
structure Scaling where
  factor : Binary64
  offset : Binary64
  unit : String
deriving DecidableEq, Repr

/-- The size of a value: a number of bytes, or a conversion for a number. -/
inductive ValueLayout
  | length (bytes : UInt64)
  | scaled (scaling : Scaling)
deriving DecidableEq, Repr

/-- The definition of one data identifier. -/
structure Definition where
  did : UInt16
  name : String
  description : String
  access : AccessLevel
  dataType : DataType
  layout : ValueLayout
deriving DecidableEq, Repr

namespace Definition

/-- An identification text that everyone may read. -/
def identification (did : UInt16) (name description : String) (bytes : UInt64) : Definition :=
  ⟨did, name, description, .anySession, .ascii, .length bytes⟩

/-- A measured number of two bytes. -/
def measurement (did : UInt16) (name description : String) (factor : Binary64) (unit : String) :
    Definition :=
  ⟨did, name, description, .extendedSession, .uint16, .scaled ⟨factor, .zero, unit⟩⟩

/-- The identification entries that every store starts with. -/
def standard : List Definition :=
  [identification 0xF190 "vin" "Vehicle Identification Number" 17,
   identification 0xF187 "part_number" "ECU Part Number" 16,
   identification 0xF18C "serial_number" "ECU Serial Number" 16,
   identification 0xF188 "software_version" "Software Version" 16,
   identification 0xF189 "hardware_version" "Hardware Version" 16,
   identification 0xF191 "hardware_part_number" "Hardware Part Number" 16,
   identification 0xF195 "software_part_number" "Software Part Number" 16]

/-- Operational entries that are only shown as comments. -/
def examples : List Definition :=
  [measurement 0x1000 "engine_speed" "Engine RPM" (.ofDecimal false 25 (-2)) "rpm",
   measurement 0x1001 "vehicle_speed" "Vehicle Speed" (.ofDecimal false 1 (-2)) "km/h"]

end Definition

end SovdConfig
