import SovdConfig.Mismatch

namespace SovdConfig

/-!
# JSON values

Main definitions:

* `JsonNumber` — an integer of 64 bits, or a double;
* `Json` — a value; an object is the list of its members;
* `Json.ofMembers` — the object in which every name occurs once, in the order of the names.
-/

/-- A number: an integer from -2^63 to 2^64 - 1, or a double. -/
inductive JsonNumber
  | integer (n : Int)
  | double (x : Binary64)
deriving DecidableEq, Repr

namespace JsonNumber

/-- The text of a number. -/
def text : JsonNumber → String
  | integer n => integerText n
  | double x => x.text .exchange

/-- The number as something found. -/
def found : JsonNumber → Found
  | integer n => .integer (integerText n)
  | double x => .double (x.text .exchange)

end JsonNumber

/-- A JSON value; the members of an object are kept in the order in which they are written. -/
inductive Json
  | null
  | bool (b : Bool)
  | number (n : JsonNumber)
  | string (s : String)
  | array (items : List Json)
  | object (members : List (String × Json))
deriving Repr, Inhabited

namespace Json

/-- The members with one more, in the order of their names; a member of the same name is
    replaced. -/
def insertMember (name : String) (value : Json) : List (String × Json) → List (String × Json)
  | [] => [(name, value)]
  | (other, v) :: rest =>
    if name = other then (name, value) :: rest
    else if name < other then (name, value) :: (other, v) :: rest
    else (other, v) :: insertMember name value rest

/-- The object of the given members; of members with one name the last counts. -/
def ofMembers (members : List (String × Json)) : Json :=
  .object (members.foldl (fun acc m => insertMember m.1 m.2 acc) [])

/-- The value of a member; `null` if this is no object or has no such member. -/
def member (value : Json) (name : String) : Json :=
  match value with
  | object members => (members.lookup name).getD null
  | _ => null

/-- The value as something found. -/
def found : Json → Found
  | null => .nothing "null"
  | bool b => .boolean b
  | number n => n.found
  | string s => .string s
  | array _ => .sequence
  | object _ => .mapping

end Json

end SovdConfig
