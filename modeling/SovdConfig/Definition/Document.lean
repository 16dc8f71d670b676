import SovdConfig.Definition
import SovdConfig.Ecu.Document

namespace SovdConfig

/-!
# Definitions documents

The text in which definitions are handed over.  Main definitions:

* `Definition.documentLines` — active entries, and entries that are only shown as comments;
* `Definition.document` — the document that is generated.

A commented entry keeps the shape of an active one: each of its lines has the comment mark after
the indentation of the list.
-/

namespace Definition

/-- A line of an entry, after the indentation of the list and a comment mark. -/
def entryLine (mark text : String) : String := "  " ++ mark ++ text

/-- The lines that say how large a value is. -/
def layoutLines : ValueLayout → List String
  | .length bytes => ["  length: " ++ decimalText bytes.toNat]
  | .scaled scaling =>
    ["  scaling:",
     "    factor: " ++ scaling.factor.text .plain,
     "    offset: " ++ scaling.offset.text .plain,
     "    unit: " ++ scaling.unit]

/-- The lines of one entry, each after the comment mark. -/
def lines (mark : String) (entry : Definition) : List String :=
  (["- did: " ++ hexText 4 entry.did.toNat,
    "  name: " ++ entry.name,
    "  description: " ++ entry.description,
    "  access: " ++ entry.access.name,
    "  data_type: " ++ entry.dataType.name] ++ layoutLines entry.layout).map (entryLine mark)

/-- The lines before the entries. -/
def introLines : List String :=
  ["# DID Definitions",
   "# Standard identification and operational parameters",
   "",
   "dids:",
   "  # === Standard Identification DIDs ==="]

/-- The lines before the commented entries. -/
def exampleIntroLines : List String :=
  ["",
   "  # === Example Operational DIDs ===",
   "  # Uncomment and modify for your ECU"]

/-- The lines of a document: the active entries with empty lines between them and, if they are
    given, commented entries with an empty line before each. -/
def documentLines (active : List Definition) (commented : Option (List Definition)) :
    List String :=
  introLines ++ [""].intercalate (active.map (lines "")) ++
    match commented with
    | some entries => exampleIntroLines ++ entries.flatMap fun e => "" :: lines "# " e
    | none => []

/-- The document that is generated: the standard entries and, on request, the examples as
    comments. -/
def document (includeExamples : Bool) : String :=
  unlines (documentLines standard (if includeExamples then some examples else none))

end Definition

end SovdConfig
