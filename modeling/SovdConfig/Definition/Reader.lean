import SovdConfig.Definition
import SovdConfig.Yaml.Decoder

namespace SovdConfig

/-!
# Reading definitions

Main definitions:

* `Layouts.ofMembers?` — the length or the conversion among the members of an entry;
* `Definition.ofSpot` — one entry;
* `Definition.listOfYaml` — the entries of a document.

An entry has a length or a conversion under a key of its own.  If both can be read, the length
counts.
-/

open Yaml

/-! ### Lengths and conversions -/

namespace ValueLayout

/-- The only value under a key, if there is exactly one. -/
def only? (key : String) (members : List (String × Value)) : Option Value :=
  match members.filter (·.1 = key) with
  | [(_, v)] => some v
  | _ => none

/-- A number of bytes. -/
def bytes? : Value → Option UInt64
  | .plain (.natural n) => some (.ofNat n)
  -- a minus sign before zero is no fault
  | .plain (.signed n) => if n = 0 then some 0 else none
  | _ => none

/-- A factor or an offset. -/
def double? : Value → Option Binary64
  | .plain (.natural n) => some (.ofNat n)
  | .plain (.signed n) => some (.ofRatio (decide (n < 0)) n.natAbs 1)
  | .plain (.double x) => some x
  | _ => none

/-- A text. -/
def text? : Value → Option String
  | .plain (.text s) => some s
  | _ => none

/-- The name of a part of a conversion: its key, or its number. -/
def partName? : Value → Option String
  | .plain (.text s) => some s
  -- a number beyond the parts names no part, so it is passed over
  | .plain (.natural n) => some ((["factor", "offset", "unit"][n]?).getD "")
  | _ => none

/-- A conversion, from a mapping or from its three parts in order. -/
def scaling? : Value → Option Scaling
  | .sequence [factor, offset, unit] => do
    return ⟨← double? factor, ← double? offset, ← text? unit⟩
  | .mapping members => do
    let members ← members.mapM fun (k, v) => (partName? k).map (·, v)
    return ⟨← double? (← only? "factor" members), ← double? (← only? "offset" members),
      ← text? (← only? "unit" members)⟩
  | _ => none

/-- The length or the conversion among members. -/
def ofMembers? (members : List (String × Value)) : Option ValueLayout :=
  match (only? "length" members).bind bytes? with
  | some n => some (length n)
  | none => ((only? "scaling" members).bind scaling?).map scaled

end ValueLayout

/-! ### Entries -/

namespace Definition

/-- The parts of an entry that are known so far.  Members that are none of them are kept. -/
structure Draft where
  did : Option UInt16 := none
  name : Option String := none
  description : Option String := none
  access : Option AccessLevel := none
  dataType : Option DataType := none
  others : List (String × Value) := []

/-- What is expected in the place of a key. -/
def keyWords : String := "field identifier"

/-- A part that must not be there yet. -/
def once {α : Type} (field : String) (old : Option α) (read : Reading α) : Reading (Option α) :=
  if old.isSome then .misfit (.duplicateField field) else some <$> read

/-- An entry with one more member. -/
def addMember (d : Draft) (key value : Spot) : Reading Draft := do
  let field ← key.text keyWords
  match field with
  | "did" => do
    return { d with did := ← once field d.did value.word }
  | "name" => do
    return { d with name := ← once field d.name (value.text "a string") }
  | "description" => do
    return { d with description := ← once field d.description (value.text "a string") }
  | "access" => do
    return { d with
      access := ← once field d.access
        (value.variant AccessLevel.ofName? (AccessLevel.all.map AccessLevel.name)) }
  | "data_type" => do
    return { d with
      dataType := ← once field d.dataType
        (value.variant DataType.ofName? (DataType.all.map DataType.name)) }
  | _ => do
    return { d with others := d.others ++ [(field, ← value.value)] }

/-- A part that must be there. -/
def required {α : Type} (field : String) : Option α → Reading α
  | some a => pure a
  | none => .misfit (.missingField field)

/-- An entry all of whose members are known. -/
def ofDraft (d : Draft) : Reading Definition := do
  let did ← required "did" d.did
  let name ← required "name" d.name
  let description ← required "description" d.description
  let access ← required "access" d.access
  let dataType ← required "data_type" d.dataType
  match ValueLayout.ofMembers? d.others with
  | some layout => return ⟨did, name, description, access, dataType, layout⟩
  | none => .misfit (.noAlternative "ValueLayout")

/-- One entry. -/
def ofSpot (s : Spot) : Reading Definition := s.members "DefinitionEntry" {} addMember ofDraft

/-- The entries of a document with one more member. -/
def addSection (entries : Option (List Definition)) (key value : Spot) :
    Reading (Option (List Definition)) := do
  if (← key.text keyWords) = "dids" then once "dids" entries (value.items ofSpot)
  else
    value.skip
    return entries

/-- The words for a document of the wrong shape. -/
def faultMessage? (e : Fault) : Option String := e.message?.map ("serialization error: " ++ ·)

/-- The entries of a document; without a list of them there are none. -/
def listOfYaml (text : String) : Except Fault (List Definition) :=
  (Document.ofText text).read fun s =>
    s.members "DefinitionsDocument" none addSection fun entries => pure (entries.getD [])

end Definition

end SovdConfig
