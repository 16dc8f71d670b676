import SovdConfig.Members
import SovdConfig.Toml.Value

namespace SovdConfig.Toml

/-!
# Building TOML tables

A document defines its tables piece by piece, and no piece may define again what another one has
defined.  Main definitions:

* `Item`, `Items` — tables under construction, with how each came to be;
* `assign?` — a key with dots gets a value;
* `open?` — a header opens a table, or the next element of an array of tables;
* `assignUnder?` — a key with dots gets a value in the table that a header has opened;
* `Item.toToml` — the finished value.
-/

/-- How a table came to be: only headers of tables below it have named it, a key with dots has made
    it, or its own header has opened it. -/
inductive Origin
  | implied
  | dotted
  | opened
deriving DecidableEq, Repr

/-- What a key stands for in a table under construction. -/
inductive Item
  /-- A value, closed to additions. -/
  | value (v : Toml)
  | table (origin : Origin) (members : List (String × Item))
  /-- An array of tables: the last one, which is still open, and those before it, last first. -/
  | elements (last : List (String × Item)) (before : List (List (String × Item)))
deriving Inhabited

/-- The members of a table under construction, in the order in which they were defined. -/
abbrev Items := List (String × Item)

/-- The members with a value under keys that lead to it.  The last table on the way must be able to
    hold it: it must have been made by keys with dots, like any on the way that is missing.  Tables
    that a header has opened are not entered. -/
def assign? (mayHold : Bool) (items : Items) : List String → Toml → Option Items
  | [], _ => none
  | [key], v =>
    if mayHold ∧ (items.lookup key).isNone then some (setMember items key (.value v)) else none
  | key :: next :: path, v =>
    match items.lookup key with
    | none =>
      (assign? true [] (next :: path) v).map fun ms => setMember items key (.table .dotted ms)
    | some (.value _) => none
    | some (.table .opened _) => none
    | some (.table origin ms) =>
      (assign? (origin = .dotted) ms (next :: path) v).map fun ms =>
        setMember items key (.table origin ms)
    | some (.elements last before) =>
      (assign? false last (next :: path) v).map fun last =>
        setMember items key (.elements last before)

/-- What a header makes of the item that its last key stands for. -/
def opened? (element : Bool) : Option Item → Option Item
  | none => some (if element then .elements [] [] else .table .opened [])
  | some (.table .implied ms) => if element then none else some (.table .opened ms)
  | some (.elements last before) => if element then some (.elements [] (last :: before)) else none
  | some _ => none

/-- The members after a header: of a table, or of the next element of an array of tables. -/
def open? (element : Bool) (items : Items) : List String → Option Items
  | [] => none
  | [key] => (opened? element (items.lookup key)).map (setMember items key)
  | key :: next :: path =>
    match items.lookup key with
    | none =>
      (open? element [] (next :: path)).map fun ms => setMember items key (.table .implied ms)
    | some (.value _) => none
    | some (.table origin ms) =>
      (open? element ms (next :: path)).map fun ms => setMember items key (.table origin ms)
    | some (.elements last before) =>
      (open? element last (next :: path)).map fun last =>
        setMember items key (.elements last before)

/-- The members with a value under keys in the table that a header has opened. -/
def assignUnder? (items : Items) : List String → List String → Toml → Option Items
  | [], keys, v => assign? true items keys v
  | key :: header, keys, v =>
    match items.lookup key with
    | some (.table origin ms) =>
      (assignUnder? ms header keys v).map fun ms => setMember items key (.table origin ms)
    | some (.elements last before) =>
      (assignUnder? last header keys v).map fun last => setMember items key (.elements last before)
    | _ => none

mutual

/-- The finished value of an item. -/
def Item.toToml : Item → Toml
  | .value v => v
  | .table _ ms => .table (membersToToml ms)
  | .elements last before =>
    .array ((elementsToToml before).reverse ++ [.table (membersToToml last)])

/-- The finished members of a table. -/
def membersToToml : List (String × Item) → List (String × Toml)
  | [] => []
  | (key, item) :: rest => (key, item.toToml) :: membersToToml rest

/-- The finished elements of an array of tables. -/
def elementsToToml : List (List (String × Item)) → List Toml
  | [] => []
  | ms :: rest => .table (membersToToml ms) :: elementsToToml rest

end

end SovdConfig.Toml
