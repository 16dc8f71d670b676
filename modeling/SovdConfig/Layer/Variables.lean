import SovdConfig.Environment
import SovdConfig.Layer.Fault
import SovdConfig.Settings.Basic
import SovdConfig.Text.Lowercase

namespace SovdConfig

/-!
# The environment as a source of settings

Main definitions:

* `Variables.key?` — the key that a variable's name stands for;
* `Variables.value` — the datum of a variable's text;
* `Variables.source` — all variables that concern the tool.

Names are read in lower case.  A text that looks like a truth value or a number is taken for one.
-/

namespace Variables

/-- The start of the names of the tool's variables, in lower case. -/
def nameStart : List Char := (appName ++ "__").toList

/-- The name of the source. -/
def sourceName : String := "the environment"

/-- A text with dots for double underscores. -/
def dotted : List Char → List Char
  | '_' :: '_' :: rest => '.' :: dotted rest
  | c :: rest => c :: dotted rest
  | [] => []

/-- What follows the start of the tool's variables, in lower case; nothing for other variables and
    for names that are no text. -/
def key? (name : Bytes) : Option (List Char) := do
  let text ← Text.decodeUtf8? name
  let lower := (Text.lowercase text).toList
  if nameStart.isPrefixOf lower then some (lower.drop nameStart.length) else none

/-- The datum of a text: a truth value in any letter case, an integer of 64 bits, a double, or the
    text itself. -/
def scalarOf (text : String) : Scalar :=
  let lower := Text.lowercase text
  if lower = "true" then .boolean true
  else if lower = "false" then .boolean false
  else
    match (Numeral.integer? text.toList).filter (fitsSigned 64) with
    | some n => .integer n
    | none =>
      match Numeral.double? text.toList with
      | some x => .double x
      | none => .text text

/-- What one variable says, added to what those before it say.  A later variable with the same key
    replaces an earlier one. -/
def add (known : List (String × Datum)) (entry : Bytes × Bytes) :
    Except LayerFault (List (String × Datum)) :=
  match key? entry.1 with
  | none => .ok known
  | some key =>
    match Text.decodeUtf8? entry.2 with
    | none => .error (.variableNotText (String.ofList key) entry.2)
    | some text =>
      .ok (setMember known (String.ofList (dotted key)) (.scalar (some sourceName) (scalarOf text)))

/-- What all variables say. -/
def source (env : Environment) : Except LayerFault (List (String × Datum)) :=
  env.bindings.foldlM add []

end Variables

end SovdConfig
