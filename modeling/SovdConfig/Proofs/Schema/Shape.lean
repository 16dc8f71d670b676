import Mathlib.Algebra.Order.Ring.Unbundled.Rat
import Mathlib.Algebra.Field.Rat
import SovdConfig.Proofs.Settings.Leaves

namespace SovdConfig

/-!
# What a JSON schema means

The part of draft 7 that the schema of the configuration file uses.  Main definitions:

* `Json.Literal.value` — the exact value of a number;
* `Shape`, `Shape.accepts` — what a schema demands of a value, and whether a value meets it;
* `Shape.of?` — the demands of a schema, if all of its keywords are known.

Beside a reference no other keyword counts, unknown properties are allowed, and a keyword about one
type of values demands nothing of the others.
-/

open Json (Tree Literal)
open Numeral (valueOf)

/-- The exact value of a number. -/
def Json.Literal.value (l : Literal) : ℚ :=
  let magnitude : ℚ := valueOf (l.whole ++ l.fraction)
  let power : Int :=
    match l.exponent with
    | none => 0
    | some (down, digits) => if down then -(valueOf digits : Int) else valueOf digits
  (if l.negative then -magnitude else magnitude) * 10 ^ (power - l.fraction.length)

/-- The value of the literal of a natural number is that number. -/
theorem Json.Literal.Plain.value {l : Literal} (h : l.Plain) : l.value = valueOf l.whole := by
  simp [Literal.value, h.unsigned, h.noFraction, h.noExponent]

/-- So it is with a number that is written as its literal. -/
theorem Json.Literal.value_ofInt (n : Nat) : (Literal.ofInt n).value = n := by
  obtain ⟨hplain, hvalue⟩ := Literal.plain_ofInt n
  rw [hplain.value, hvalue]

namespace Schema

/-! ### Demands -/

/-- The types of values that a schema can name. -/
inductive Kind
  | null
  | boolean
  | object
  | array
  | number
  | string
  | integer
deriving DecidableEq, Repr

namespace Kind

/-- All types. -/
def all : List Kind := [null, boolean, object, array, number, string, integer]

/-- The name of a type. -/
def name : Kind → String
  | null => "null"
  | boolean => "boolean"
  | object => "object"
  | array => "array"
  | number => "number"
  | string => "string"
  | integer => "integer"

/-- The type of a name. -/
def ofName? (text : String) : Option Kind := all.find? (·.name = text)

/-- Whether a value is of a type.  A number is an integer if it has no fractional part, however it
    is written. -/
def includes : Kind → Tree → Bool
  | null, .null => true
  | boolean, .bool _ => true
  | object, .object _ => true
  | array, .array _ => true
  | number, .number _ => true
  | string, .string _ => true
  | integer, .number l => l.value.den = 1
  | _, _ => false

end Kind

/-- What a schema demands of a value. -/
inductive Shape
  /-- It is of one of the given types. -/
  | types (kinds : List Kind)
  /-- It is the given text. -/
  | const (text : String)
  /-- If it is a number, it is not less than the given one. -/
  | minimum (least : ℚ)
  /-- If it is a number, it is not greater than the given one. -/
  | maximum (greatest : ℚ)
  /-- If it is an object, its members of the given names have the given shapes. -/
  | properties (shapes : List (String × Shape))
  /-- It has all of the given shapes. -/
  | allOf (shapes : List Shape)
  /-- It has exactly one of the given shapes. -/
  | oneOf (shapes : List Shape)

namespace Shape

mutual

/-- Whether a value meets the demands. -/
def accepts : Shape → Tree → Bool
  | types kinds, v => kinds.any (·.includes v)
  | const text, v =>
    match v with
    | .string s => s = text
    | _ => false
  | minimum least, v =>
    match v with
    | .number l => least ≤ l.value
    | _ => true
  | maximum greatest, v =>
    match v with
    | .number l => l.value ≤ greatest
    | _ => true
  | properties shapes, v =>
    match v with
    | .object members => acceptsMembers shapes members
    | _ => true
  | allOf shapes, v => acceptsAll shapes v
  | oneOf shapes, v => countAccepting shapes v = 1

/-- Whether the members of an object meet the demands on the members of their names. -/
def acceptsMembers : List (String × Shape) → List (String × Tree) → Bool
  | [], _ => true
  | (name, shape) :: rest, members =>
    (members.all fun m => m.1 ≠ name || shape.accepts m.2) && acceptsMembers rest members

/-- Whether a value meets all of the demands. -/
def acceptsAll : List Shape → Tree → Bool
  | [], _ => true
  | shape :: rest, v => shape.accepts v && acceptsAll rest v

/-- How many of the demands a value meets. -/
def countAccepting : List Shape → Tree → Nat
  | [], _ => 0
  | shape :: rest, v => (if shape.accepts v then 1 else 0) + countAccepting rest v

end

/-! ### Reading a schema -/

/-- The keywords that demand nothing. -/
def annotations : List String :=
  ["$id", "$schema", "title", "description", "default", "format", "definitions"]

/-- The definition that a reference names. -/
def definitionName? (reference : String) : Option String :=
  ("#/definitions/".toList.isPrefixOf? reference.toList).map String.ofList

section

variable (definition? : String → Option Shape)

mutual

/-- The demands of a schema, with those of the definitions that it refers to. -/
def read? : Tree → Option Shape
  | .bool true => some (allOf [])
  | .bool false => some (oneOf [])
  | .object members =>
    match members.lookup "$ref" with
    | some (.string reference) => (definitionName? reference).bind definition?
    | some _ => none
    | none => (readKeywords? members).map allOf
  | _ => none

/-- The demands of the keywords of a schema, one after the other. -/
def readKeywords? : List (String × Tree) → Option (List Shape)
  | [] => some []
  | (keyword, v) :: rest =>
    if keyword ∈ annotations then readKeywords? rest
    else do
      let shape ← readKeyword? keyword v
      let shapes ← readKeywords? rest
      return shape :: shapes

/-- The demand of a keyword. -/
def readKeyword? (keyword : String) : Tree → Option Shape
  | .string s =>
    if keyword = "type" then (Kind.ofName? s).map fun kind => types [kind]
    else if keyword = "const" then some (const s)
    else none
  | .number l =>
    if keyword = "minimum" then some (minimum l.value)
    else if keyword = "maximum" then some (maximum l.value)
    else none
  | .array items =>
    if keyword = "type" then (items.mapM fun v : Tree => v.asString?.bind Kind.ofName?).map types
    else if keyword = "allOf" then (readAll? items).map allOf
    else if keyword = "oneOf" then (readAll? items).map oneOf
    else none
  | .object members =>
    if keyword = "properties" then (readNamed? members).map properties else none
  | _ => none

/-- The demands of several schemas. -/
def readAll? : List Tree → Option (List Shape)
  | [] => some []
  | v :: rest => do
    let shape ← read? v
    let shapes ← readAll? rest
    return shape :: shapes

/-- The demands of several schemas under names. -/
def readNamed? : List (String × Tree) → Option (List (String × Shape))
  | [] => some []
  | (name, v) :: rest => do
    let shape ← read? v
    let shapes ← readNamed? rest
    return (name, shape) :: shapes

end

end

/-- The demands of a definition.  References lead on at most as often as there are definitions,
    unless they lead round in a circle. -/
def definition? (definitions : List (String × Tree)) : Nat → String → Option Shape
  | 0, _ => none
  | hops + 1, name => (definitions.lookup name).bind (read? (definition? definitions hops))

/-- The demands of a whole schema. -/
def of? (schema : Tree) : Option Shape :=
  match schema with
  | .object members =>
    let definitions := Json.membersIn members (some "definitions")
    read? (definition? definitions definitions.length) schema
  | _ => read? (fun _ => none) schema

/-! ### Accepted values -/

variable {v : Tree} {shapes : List Shape}

/-- All demands of a list are met if each of them is. -/
theorem accepts_allOf : (allOf shapes).accepts v = true ↔ ∀ shape ∈ shapes, shape.accepts v := by
  rw [accepts]
  induction shapes with
  | nil => simp [acceptsAll]
  | cons shape rest ih => simp [acceptsAll, ih]

/-- The members of an object have the shapes of their names. -/
theorem accepts_properties {named : List (String × Shape)} {members : List (String × Tree)} :
    (properties named).accepts (.object members) = true ↔
      ∀ p ∈ named, ∀ m ∈ members, m.1 = p.1 → p.2.accepts m.2 := by
  simp only [accepts]
  induction named with
  | nil => simp [acceptsMembers]
  | cons p rest ih =>
    obtain ⟨name, shape⟩ := p
    rw [acceptsMembers, Bool.and_eq_true, ih, List.forall_mem_cons]
    simp [or_iff_not_imp_left]

end Shape

end Schema

end SovdConfig
