import SovdConfig.Layer.Place
import SovdConfig.Path

namespace SovdConfig

/-!
# Faults of layered settings

Main definitions:

* `LayerFault` — why layered data are no settings;
* `LayerFault.under` — a fault inside a part, seen from the whole;
* `LayerFault.message` — the words for it.
-/

/-- Why layered data are no settings, with the steps to the datum that is at fault. -/
inductive LayerFault
  /-- The datum does not fit its setting; the name of its source is shown if it is known. -/
  | mismatch (mismatch : Mismatch) (place : List Hop) (origin : Option String)
  | noVariant (typeName name : String) (place : List Hop)
  /-- The datum cannot stand for one of several names. -/
  | notVariant (typeName : String) (place : List Hop)
  /-- A variable with the given key is no text. -/
  | variableNotText (key : String) (value : Bytes)
deriving DecidableEq, Repr

namespace LayerFault

/-- A fault inside a part, seen from the whole. -/
def under (hop : Hop) : LayerFault → LayerFault
  | mismatch m place origin => mismatch m (hop :: place) origin
  | noVariant typeName name place => noVariant typeName name (hop :: place)
  | notVariant typeName place => notVariant typeName (hop :: place)
  | variableNotText key value => variableNotText key value

/-- The words for the place of a fault. -/
def placeText (place : List Hop) : String :=
  if place = [] then "" else " for key " ++ Found.ticked (Hop.text place)

/-- The words for the source of a datum. -/
def originText : Option String → String
  | some origin => " in " ++ origin
  | none => ""

/-- The words for a fault. -/
def message : LayerFault → String
  | mismatch m place origin => m.message ++ placeText place ++ originText origin
  | noVariant typeName name place =>
    "enum " ++ typeName ++ " does not have variant constructor " ++ name ++ placeText place
  | notVariant typeName place =>
    "value of enum " ++ typeName ++
      " should be represented by either string or table with exactly one key" ++ placeText place
  | variableNotText key value =>
    "env variable " ++ Text.quoteText key ++ " contains non-Unicode data: " ++ Text.quote value

end LayerFault

end SovdConfig
