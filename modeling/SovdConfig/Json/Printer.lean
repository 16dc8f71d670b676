import SovdConfig.Json.Quoted
import SovdConfig.Json.Value

namespace SovdConfig.Json

/-!
# Printing JSON values

Main definitions:

* `printLines` — the lines of a value, two blanks deeper with every container;
* `print` — the text of a value over several lines.

Empty containers stay on one line.
-/

/-- The text of a value that is no container. -/
def scalarText : Json → String
  | null => "null"
  | bool b => if b then "true" else "false"
  | number n => n.text
  | string s => quote s
  | array _ => "[]"
  | object _ => "\x7b\x7d"

/-- Text put in front of the first line. -/
def prepend (text : String) : List String → List String
  | [] => [text]
  | line :: rest => (text ++ line) :: rest

/-- Text put behind the last line. -/
def append (text : String) : List String → List String
  | [] => [text]
  | [line] => [line ++ text]
  | line :: rest => line :: append text rest

/-- Entries of a container, each two blanks deeper, with commas between them. -/
def joinEntries : List (List String) → List String
  | [] => []
  | [entry] => entry.map ("  " ++ ·)
  | entry :: rest => (append "," entry).map ("  " ++ ·) ++ joinEntries rest

mutual

/-- The lines of a value. -/
def printLines : Json → List String
  | array (item :: items) => ["["] ++ joinEntries (printItems (item :: items)) ++ ["]"]
  | object (m :: members) =>
    ["\x7b"] ++ joinEntries (printMembers (m :: members)) ++ ["\x7d"]
  | v => [scalarText v]

/-- The lines of each item of a list. -/
def printItems : List Json → List (List String)
  | [] => []
  | v :: rest => printLines v :: printItems rest

/-- The lines of each member of an object. -/
def printMembers : List (String × Json) → List (List String)
  | [] => []
  | (name, v) :: rest => prepend (quote name ++ ": ") (printLines v) :: printMembers rest

end

/-- The text of a value over several lines, without a line break at the end. -/
def print (value : Json) : String := "\n".intercalate (printLines value)

end SovdConfig.Json
