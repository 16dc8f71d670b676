import SovdConfig.Members
import SovdConfig.Mismatch
import SovdConfig.Toml.Value

namespace SovdConfig

/-!
# Layered data

Settings come from several sources that are laid over each other: defaults, a file, variables.
Main definitions:

* `Scalar`, `Datum` — what a source says, and where it says so;
* `Datum.overlay` — one datum over another: tables are merged key by key, everything else replaces
  what was there;
* `Datum.ofToml` — the datum of a TOML value.

A table that comes to be by merging has no origin of its own.
-/

/-- A value without parts. -/
inductive Scalar
  | boolean (b : Bool)
  | integer (n : Int)
  | double (x : Binary64)
  | text (s : String)
deriving DecidableEq, Repr

/-- What a source says, with the name of the source. -/
inductive Datum
  | nothing
  | scalar (origin : Option String) (value : Scalar)
  | list (origin : Option String) (items : List Datum)
  | table (origin : Option String) (members : List (String × Datum))
deriving Inhabited, Repr

namespace Datum

/-- The name of the source. -/
def origin : Datum → Option String
  | nothing => none
  | scalar origin _ => origin
  | list origin _ => origin
  | table origin _ => origin

/-- The datum as something found. -/
def found : Datum → Found
  | nothing => .nothing "unit value"
  | scalar _ (.boolean b) => .boolean b
  | scalar _ (.integer n) => .integer (integerText n)
  | scalar _ (.double x) => .double (x.text .pointed)
  | scalar _ (.text s) => .string s
  | list .. => .sequence
  | table .. => .mapping

/-- The members of a table, and its origin; anything else counts as an empty table. -/
def asTable : Option Datum → Option String × List (String × Datum)
  | some (table origin members) => (origin, members)
  | _ => (none, [])

/-- The items of a list, and its origin; anything else counts as an empty list. -/
def asList : Option Datum → Option String × List Datum
  | some (list origin items) => (origin, items)
  | _ => (none, [])

mutual

/-- A datum over what was there before. -/
def overlay (old : Option Datum) : Datum → Datum
  | table _ members => table (asTable old).1 (overlayMembers (asTable old).2 members)
  | new => new

/-- The members of a table over those of another. -/
def overlayMembers (old : List (String × Datum)) : List (String × Datum) → List (String × Datum)
  | [] => old
  | (key, new) :: rest => overlayMembers (setMember old key (overlay (old.lookup key) new)) rest

end

mutual

/-- The datum of a TOML value. -/
def ofToml (origin : String) : Toml → Datum
  | .string s => scalar (some origin) (.text s)
  | .integer n => scalar (some origin) (.integer n)
  | .double x => scalar (some origin) (.double x)
  | .boolean b => scalar (some origin) (.boolean b)
  | .moment text => scalar (some origin) (.text text)
  | .array items => list (some origin) (ofTomlItems origin items)
  | .table members => table (some origin) (ofTomlMembers origin members)

/-- The data of the items of an array. -/
def ofTomlItems (origin : String) : List Toml → List Datum
  | [] => []
  | v :: rest => ofToml origin v :: ofTomlItems origin rest

/-- The data of the members of a table. -/
def ofTomlMembers (origin : String) : List (String × Toml) → List (String × Datum)
  | [] => []
  | (key, v) :: rest => (key, ofToml origin v) :: ofTomlMembers origin rest

end

end Datum

end SovdConfig
