import SovdConfig.Number.Binary64

namespace SovdConfig

/-!
# TOML values

Main definitions:

* `Toml` — a value; a table is the list of its members;
* `Toml.find?` — the member of a table.
-/

/-- A TOML value.  A date or a time is kept as its text. -/
inductive Toml
  | string (s : String)
  | integer (n : Int)
  | double (x : Binary64)
  | boolean (b : Bool)
  | moment (text : String)
  | array (items : List Toml)
  | table (members : List (String × Toml))
deriving Repr, Inhabited

/-- The member of a table. -/
def Toml.find? : Toml → String → Option Toml
  | table members, key => members.lookup key
  | _, _ => none

end SovdConfig
