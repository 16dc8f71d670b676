import SovdConfig.Layer.Datum
import SovdConfig.Number.Numeral

namespace SovdConfig

/-!
# Places in layered data

The keys of a source may lead into nested tables and lists: `a.b[0].c`.  Main definitions:

* `Hop` — one step from a datum to a part of it;
* `Hop.ofKey` — the steps that a key stands for;
* `Datum.put` — a datum over what is found after some steps;
* `Datum.addSource` — everything a source says over what is known.

A key that is not of this form stands for itself, dots and all.

The entries of one source are laid over what is known in the order in which they are listed.  That
order is a choice: a source is a table, and tables are in no order.  It matters only where two
entries of one source meet, as `generator` and `generator.server_port` do.
-/

/-- One step from a datum to a part of it; a negative index counts from the end. -/
inductive Hop
  | key (name : String)
  | index (i : Int)
deriving DecidableEq, Repr

namespace Hop

/-- Whether the character may stand in a name between dots. -/
def isNameChar (c : Char) : Bool := c.isAlphanum || c = '_' || c = '-'

/-- A name, and the rest. -/
def name? (cs : List Char) : Option (String × List Char) :=
  let name := cs.takeWhile isNameChar
  if name = [] then none else some (String.ofList name, cs.dropWhile isNameChar)

/-- Whether the character is a blank. -/
def isBlank (c : Char) : Bool := c = ' ' || c = '\t'

/-- An index of the size of a machine word, after its bracket. -/
def index? (cs : List Char) : Option (Int × List Char) := do
  let cs := cs.dropWhile isBlank
  let (negative, digits) := match cs with
    | '-' :: rest => (true, rest)
    | rest => (false, rest)
  let n ← Numeral.digits? (digits.takeWhile Char.isDigit)
  let i : Int := if negative then -(n : Int) else n
  match (digits.dropWhile Char.isDigit).dropWhile isBlank with
  | ']' :: rest => if fitsSigned 64 i then some (i, rest) else none
  | _ => none

/-- The steps after the first name.  Each takes at least one character. -/
def tail? : Nat → List Char → Option (List Hop)
  | _, [] => some []
  | 0, _ => none
  | fuel + 1, c :: rest =>
    if c = '.' then do
      let (name, rest) ← name? rest
      let hops ← tail? fuel rest
      return .key name :: hops
    else if c = '[' then do
      let (i, rest) ← index? rest
      let hops ← tail? fuel rest
      return .index i :: hops
    else none

/-- The steps that a key stands for, if it is of this form. -/
def parse? (cs : List Char) : Option (List Hop) := do
  let (name, rest) ← name? cs
  let hops ← tail? rest.length rest
  return .key name :: hops

/-- The steps that a key stands for. -/
def ofKey (key : String) : List Hop := (parse? key.toList).getD [.key key]

/-- The text of some steps. -/
def text : List Hop → String
  | [] => ""
  | [key name] => name
  | key name :: key next :: rest => name ++ "." ++ text (key next :: rest)
  | key name :: rest => name ++ text rest
  | [index i] => "[" ++ integerText i ++ "]"
  | index i :: key next :: rest => "[" ++ integerText i ++ "]." ++ text (key next :: rest)
  | index i :: rest => "[" ++ integerText i ++ "]" ++ text rest

/-- The items with room for an index, and the index counted from the start.  A list grows at its
    end, or for a negative index at its start. -/
def room (items : List Datum) (i : Int) : List Datum × Nat :=
  if 0 ≤ i then
    (items ++ List.replicate (i.toNat + 1 - items.length) .nothing, i.toNat)
  else if i.natAbs ≤ items.length then (items, items.length - i.natAbs)
  else (List.replicate (i.natAbs - items.length) .nothing ++ items, 0)

end Hop

namespace Datum

/-- A datum over what is found after some steps.  What is on the way and is no table or list, as
    the step needs it, is replaced. -/
def put (old : Option Datum) : List Hop → Datum → Datum
  | [], new => overlay old new
  | .key name :: hops, new =>
    let (origin, members) := asTable old
    table origin (setMember members name (put (members.lookup name) hops new))
  | .index i :: hops, new =>
    let (origin, items) := asList old
    let (items, n) := Hop.room items i
    list origin (items.set n (put items[n]? hops new))

/-- Everything a source says, key by key, over what is known.  Where two entries of the source meet,
    the later one counts. -/
def addSource (known : Datum) (source : List (String × Datum)) : Datum :=
  source.foldl (fun d entry => put (some d) (Hop.ofKey entry.1) entry.2) known

end Datum

end SovdConfig
