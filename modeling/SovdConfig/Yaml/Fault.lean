import SovdConfig.Mismatch
import SovdConfig.Yaml.Cursor

namespace SovdConfig.Yaml

/-!
# Faults of YAML documents

Main definitions:

* `Route` — the way from the root of a document to a value;
* `Fault` — why a document cannot be read as what it should be;
* `Fault.message?` — the words for a value of the wrong shape.
-/

/-- The way from the root of a document to a value. -/
inductive Route
  | root
  | item (parent : Route) (index : Nat)
  | member (parent : Route) (key : String)
  /-- The value of a key that is no scalar. -/
  | unnamed (parent : Route)
deriving DecidableEq, Repr

namespace Route

mutual

/-- The text of a route. -/
def text : Route → String
  | root => "."
  | item parent index => parent.text ++ "[" ++ decimalText index ++ "]"
  | member parent key => parent.intro ++ key
  | unnamed parent => parent.intro ++ "?"

/-- What comes before a key. -/
def intro : Route → String
  | root => ""
  | item parent index => parent.text ++ "[" ++ decimalText index ++ "]."
  | member parent key => parent.intro ++ key ++ "."
  | unnamed parent => parent.intro ++ "?."

end

end Route

/-- Where a mismatch was found. -/
structure Position where
  route : Route
  mark : Mark
deriving DecidableEq, Repr

/-- The words that come before a mismatch. -/
def Position.intro (p : Position) : String :=
  if p.route.text = "." then "" else p.route.text ++ ": "

/-- The words that come after a mismatch.  The start of the text is not mentioned. -/
def Position.outro (p : Position) : String :=
  if p.mark.line = 0 ∧ p.mark.column = 0 then ""
  else " at line " ++ decimalText (p.mark.line + 1) ++ " column " ++ decimalText (p.mark.column + 1)

/-- Why a document cannot be read. -/
inductive Fault
  /-- The text is not well-formed, holds several documents, or exceeds a limit. -/
  | malformed
  /-- A value is of the wrong shape; its position may still be unknown. -/
  | misfit (reason : Mismatch) (position : Option Position)
deriving DecidableEq, Repr

namespace Fault

/-- With a position, unless there is one.  So the innermost position is kept. -/
def located (p : Position) : Fault → Fault
  | malformed => malformed
  | misfit reason position => misfit reason (position.or (some p))

/-- The words for a value of the wrong shape. -/
def message? : Fault → Option String
  | malformed => none
  | misfit reason position =>
    some ((position.map Position.intro).getD "" ++ reason.message ++
      (position.map Position.outro).getD "")

end Fault

end SovdConfig.Yaml
