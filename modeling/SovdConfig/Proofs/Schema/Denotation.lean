import SovdConfig.Proofs.Json.Printing
import SovdConfig.Proofs.Json.Unambiguous
import SovdConfig.Proofs.Schema.Agreement

namespace SovdConfig.Schema

/-!
# What the text of the schema denotes

Whatever the project's name and address are, quotes and control characters included, the text of the
schema denotes one object, of which three members depend on them.  Main statements:

* `exists_members` — the members of that object;
* `text_denotes_object` — they are what the text denotes, and so different names or addresses give
  different texts.
-/

open Json (Tree TextDenotes textDenotes_print)

/-- The names of the members that depend on the project and its address. -/
def variableNames : List String := ["$id", "title", "description"]

/-- Whether the members are those of the schema for a project at an address, the given ones being
    the same for all. -/
structure HasMembers (rest : List (String × Tree)) (project address : String)
    (members : List (String × Tree)) : Prop where
  id : members.lookup "$id" = some (.string (address ++ "/schemas/config.schema.json"))
  title : members.lookup "title" = some (.string (project ++ " configuration"))
  description :
    members.lookup "description" = some (.string ("Configuration schema for " ++ project))
  rest : members.filter (fun m => m.1 ∉ variableNames) = rest
  distinct : (Tree.object members).Distinct

/-- The members that are the same for all. -/
def sharedMembers : List (String × Tree) :=
  (Json.toTreeMembers?
    [("$schema", .string "http://json-schema.org/draft-07/schema#"),
     ("type", .string "object"),
     ("properties", .object properties),
     ("definitions", .object definitions)]).getD []

/-- The members of the schema. -/
theorem exists_members (project address : String) :
    ∃ members, TextDenotes (text project address) (.object members) ∧
      HasMembers sharedMembers project address members := by
  refine ⟨_, textDenotes_print rfl, rfl, rfl, rfl, rfl, ?_⟩
  simp [Tree.Distinct, Tree.DistinctMembers, Tree.DistinctAll]

/-- The members say what the project and its address are. -/
theorem HasMembers.inj {rest members : List (String × Tree)}
    {project project' address address' : String} (h : HasMembers rest project address members)
    (h' : HasMembers rest project' address' members) :
    project = project' ∧ address = address' := by
  have hid := h.id.symm.trans h'.id
  have htitle := h.title.symm.trans h'.title
  simp at hid htitle
  exact ⟨htitle, hid⟩

/-- The text of the schema denotes one object, in which no name occurs twice.  Its identifier, its
    title and its description are those of the project and its address, and all other members are
    the same for all of them, the property for the reference to a schema among them.  So different
    names or addresses have different texts. -/
theorem text_denotes_object :
    ∃ rest : List (String × Tree),
      (∃ properties, rest.lookup "properties" = some (.object properties) ∧
        properties.lookup "$schema" = some (.object
          [("description", .string "JSON Schema reference for editor support"),
           ("type", .string "string")])) ∧
      ∀ project address,
        (∃ members, (∀ v, TextDenotes (text project address) v ↔ v = .object members) ∧
          (Tree.object members).Distinct ∧
          members.lookup "$id" = some (.string (address ++ "/schemas/config.schema.json")) ∧
          members.lookup "title" = some (.string (project ++ " configuration")) ∧
          members.lookup "description" =
            some (.string ("Configuration schema for " ++ project)) ∧
          members.filter (fun m => m.1 ∉ ["$id", "title", "description"]) = rest) ∧
        ∀ project' address',
          text project address = text project' address' ↔
            project = project' ∧ address = address' := by
  refine ⟨sharedMembers, ⟨_, rfl, rfl⟩, fun project address => ?_⟩
  obtain ⟨members, hdenotes, hmembers⟩ := exists_members project address
  refine ⟨⟨members, fun v => ⟨fun hv => hv.unique hdenotes, fun hv => hv ▸ hdenotes⟩,
    hmembers.distinct, hmembers.id, hmembers.title, hmembers.description, hmembers.rest⟩, ?_⟩
  refine fun project' address' => ⟨fun htext => ?_, fun ⟨hproject, haddress⟩ => by
    rw [hproject, haddress]⟩
  obtain ⟨members', hdenotes', hmembers'⟩ := exists_members project' address'
  -- one text has one value
  rw [← htext] at hdenotes'
  obtain rfl := Tree.object.inj (hdenotes.unique hdenotes')
  exact hmembers.inj hmembers'

end SovdConfig.Schema
