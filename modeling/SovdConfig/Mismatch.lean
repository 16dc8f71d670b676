import SovdConfig.Number.Decimal
import SovdConfig.Text.Quoted

namespace SovdConfig

/-!
# Data of the wrong shape

Why a value of a data format is not a value of the type that is read from it.  Main definitions:

* `Found` — what stands where something else was expected;
* `Mismatch` — the ways in which data fails to fit;
* `Mismatch.message` — the words for each of them.
-/

/-- What was found in the data.  Numbers come with their text, as each format writes them. -/
inductive Found
  /-- An empty value, with the format's word for it. -/
  | nothing (word : String)
  | boolean (b : Bool)
  | integer (text : String)
  | double (text : String)
  | string (text : String)
  | sequence
  | mapping
  /-- A value that only its name tells apart. -/
  | named (what : String)
deriving DecidableEq, Repr

namespace Found

/-- A text between backquotes. -/
def ticked (text : String) : String := "`" ++ text ++ "`"

/-- The words for what was found. -/
def message : Found → String
  | nothing word => word
  | boolean b => "boolean " ++ ticked (if b then "true" else "false")
  | integer text => "integer " ++ ticked text
  | double text => "floating point " ++ ticked text
  | string text => "string " ++ Text.quoteText text
  | sequence => "sequence"
  | mapping => "map"
  | named what => what

end Found

/-- Why a value does not fit the type that is read from it. -/
inductive Mismatch
  /-- The value is of another kind. -/
  | kind (found : Found) (expected : String)
  /-- The value is of the right kind and out of range. -/
  | value (found : Found) (expected : String)
  /-- The sequence has another length. -/
  | length (found : Nat) (expected : String)
  | unknownVariant (name : String) (known : List String)
  | missingField (name : String)
  | duplicateField (name : String)
  /-- None of the alternatives of a type fits. -/
  | noAlternative (typeName : String)
  /-- A tagged value stands where only untagged ones can be told apart. -/
  | taggedValue
deriving DecidableEq, Repr

/-- The words that list what would have been accepted, three or more. -/
def oneOf (names : List String) : String :=
  "one of " ++ String.intercalate ", " (names.map Found.ticked)

/-- The words for a mismatch. -/
def Mismatch.message : Mismatch → String
  | kind found expected => "invalid type: " ++ found.message ++ ", expected " ++ expected
  | value found expected => "invalid value: " ++ found.message ++ ", expected " ++ expected
  | length found expected =>
    "invalid length " ++ decimalText found ++ ", expected " ++ expected
  | unknownVariant name known =>
    "unknown variant " ++ Found.ticked name ++ ", expected " ++ oneOf known
  | missingField name => "missing field " ++ Found.ticked name
  | duplicateField name => "duplicate field " ++ Found.ticked name
  | noAlternative typeName => "data did not match any variant of untagged enum " ++ typeName
  | taggedValue => "untagged and internally tagged enums do not support enum input"

end SovdConfig
