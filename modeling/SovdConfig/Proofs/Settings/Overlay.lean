import SovdConfig.Proofs.Json.Printing
import SovdConfig.Proofs.Settings.Leaves
import SovdConfig.Settings.Printer

namespace SovdConfig

/-!
# Settings over the defaults

Main definitions:

* `Settings.on` — the settings that agree with given ones on some of them, and are the defaults
  elsewhere;
* `Overlays` — whether the members of an object hold some of the settings and leave out the others;
* `Settings.members` — the members that are written for settings.

Main statement: `Settings.ofJson_overlay`, data that hold some settings are decoded to these over
the defaults, and what is written for settings is decoded to them.
-/

open Json (Tree TextDenotes Literal)
open Numeral (valueOf)

/-- The settings that agree with given ones on some of them, and are the defaults elsewhere. -/
def Settings.on (c : Settings) (S : Finset Leaf) : Settings :=
  ofLeaves fun leaf => if leaf ∈ S then leaf.get c else leaf.get {}

/-- Whether the members of an object hold some of the settings, a setting that is left out being
    `null`, and leave out the others.  Members under other names may be anything. -/
structure Overlays (c : Settings) (S : Finset Leaf) (members : List (String × Tree)) : Prop
    extends Json.Sectioned members where
  inside : ∀ leaf ∈ S, leaf.Holds (leaf.get c) ((leaf.tree? members).getD .null)
  outside : ∀ leaf ∉ S, leaf.tree? members = none

/-- Only a setting without a value is `null`, and that is its default. -/
theorem Leaf.Holds.eq_default {leaf : Leaf} {a : leaf.Value} (h : leaf.Holds a .null) :
    a = leaf.get {} := by
  have hoption : ∀ {a : Option String}, Tree.null = (a.map Tree.string).getD .null → a = none := by
    rintro (- | s) h
    · rfl
    · simp at h
  cases leaf with
  | schema | file => exact hoption h
  | _ => simp [Holds] at h

/-- Members that hold some of the settings are decoded to these over the defaults. -/
theorem Overlays.ofJson {c : Settings} {S : Finset Leaf} {members : List (String × Tree)}
    (h : Overlays c S members) {text : String} (htext : TextDenotes text (.object members)) :
    Settings.ofJson text = .ok (c.on S) := by
  rw [Settings.ofJson_eq_ok_iff htext h.toSectioned]
  intro leaf
  rw [Settings.on, Settings.get_ofLeaves]
  by_cases hleaf : leaf ∈ S
  · rw [if_pos hleaf]
    have hholds := h.inside leaf hleaf
    cases htree : leaf.tree? members with
    | none =>
      rw [htree] at hholds
      exact hholds.eq_default
    | some v =>
      rw [htree] at hholds
      exact hholds.ofTree?
  · rw [if_neg hleaf, h.outside leaf hleaf]
    rfl

/-! ### What is written for settings -/

/-- The members of the section `logging`. -/
def LoggingSettings.members (s : LoggingSettings) : List (String × Tree) :=
  [("level", .string s.level.name)] ++ (s.file.map fun file => ("file", .string file)).toList

/-- The members of the section `generator`. -/
def GeneratorSettings.members (s : GeneratorSettings) : List (String × Tree) :=
  [("server_host", .string s.serverHost),
   ("server_port", .number (.ofInt s.serverPort.toNat)),
   ("interface", .string s.interface),
   ("isotp_padding", .number (.ofInt s.isotpPadding.toNat)),
   ("doip_port", .number (.ofInt s.doipPort.toNat)),
   ("doip_source_address", .number (.ofInt s.doipSourceAddress.toNat)),
   ("did_store_path", .string s.didStorePath)]

/-- The members of all settings. -/
def Settings.members (s : Settings) : List (String × Tree) :=
  (s.schema.map fun schema => ("$schema", .string schema)).toList ++
    [("logging", .object s.logging.members), ("generator", .object s.generator.members)]

/-- What is written for settings are these members. -/
theorem Settings.toTree?_toJson (c : Settings) : c.toJson.toTree? = some (.object c.members) := by
  obtain ⟨schema, ⟨level, file⟩, generator⟩ := c
  cases schema <;> cases file <;> rfl

/-- The sections are found among the members. -/
theorem Settings.lookup_members (c : Settings) :
    c.members.lookup "$schema" = c.schema.map .string ∧
      c.members.lookup "logging" = some (.object c.logging.members) ∧
        c.members.lookup "generator" = some (.object c.generator.members) := by
  obtain ⟨schema, logging, generator⟩ := c
  cases schema <;> exact ⟨rfl, rfl, rfl⟩

/-- The settings of the section `logging` are found among its members. -/
theorem LoggingSettings.lookup_members (s : LoggingSettings) :
    s.members.lookup "level" = some (.string s.level.name) ∧
      s.members.lookup "file" = s.file.map .string := by
  obtain ⟨level, file⟩ := s
  cases file <;> exact ⟨rfl, rfl⟩

/-- No name occurs twice among the members. -/
theorem Settings.sectioned_members (c : Settings) : Json.Sectioned c.members := by
  have hwhole : (c.members.map Prod.fst).Nodup := by
    cases h : c.schema <;> simp [members, h]
  have hlogging : (c.logging.members.map Prod.fst).Nodup := by
    cases h : c.logging.file <;> simp [LoggingSettings.members, h]
  have hgenerator : (c.generator.members.map Prod.fst).Nodup := by
    simp [GeneratorSettings.members]
  refine .of_nodup hwhole ?_
  simp only [sectionNames, List.forall_mem_cons, c.lookup_members]
  refine ⟨?_, ?_, by simp⟩
  · rintro v ⟨⟩
    exact ⟨_, rfl, hlogging⟩
  · rintro v ⟨⟩
    exact ⟨_, rfl, hgenerator⟩

/-- The members of settings hold each of them. -/
theorem Settings.holds_members (c : Settings) (leaf : Leaf) :
    leaf.Holds (leaf.get c) ((leaf.tree? c.members).getD .null) := by
  obtain ⟨hschema, hlogging, hgenerator⟩ := c.lookup_members
  obtain ⟨hlevel, hfile⟩ := c.logging.lookup_members
  have hinLogging : Json.membersIn c.members (some "logging") = c.logging.members := by
    simp only [Json.membersIn, hlogging]
  have hinGenerator : Json.membersIn c.members (some "generator") = c.generator.members := by
    simp only [Json.membersIn, hgenerator]
  have hnumber : ∀ n : Nat, ∃ l : Literal, Tree.number (.ofInt n) = .number l ∧ l.Plain ∧
      valueOf l.whole = n := fun n => ⟨.ofInt n, rfl, Json.Literal.plain_ofInt n⟩
  cases leaf with
  | schema =>
    rw [show Leaf.schema.tree? c.members = c.schema.map .string from hschema]
    rfl
  | level =>
    rw [Leaf.tree?_eq hinLogging rfl, show Leaf.level.key = "level" from rfl, hlevel]
    rfl
  | file =>
    rw [Leaf.tree?_eq hinLogging rfl, show Leaf.file.key = "file" from rfl, hfile]
    rfl
  | serverHost | interface | didStorePath =>
    rw [Leaf.tree?_eq hinGenerator]
    · rfl
    · rfl
  | serverPort | isotpPadding | doipPort | doipSourceAddress =>
    rw [Leaf.tree?_eq hinGenerator]
    · exact hnumber _
    · rfl

/-- The members of settings hold all of them. -/
theorem Settings.overlays_members (c : Settings) : Overlays c Finset.univ c.members where
  toSectioned := c.sectioned_members
  inside leaf _ := c.holds_members leaf
  outside leaf hleaf := absurd (Finset.mem_univ leaf) hleaf

/-- JSON data that hold some of the settings are decoded to these over the defaults, whatever the
    order of the members and whatever else there is; and what is written for settings is decoded to
    those settings. -/
theorem Settings.ofJson_overlay (c : Settings) :
    (∀ (S : Finset Leaf) (members : List (String × Tree)) (text : String),
      Overlays c S members → TextDenotes text (.object members) →
        ofJson text = .ok (c.on S)) ∧
      ofJson c.toJson.print = .ok c := by
  refine ⟨fun S members text h htext => h.ofJson htext, ?_⟩
  have hall := c.overlays_members.ofJson (Json.textDenotes_print c.toTree?_toJson)
  have hon : c.on Finset.univ = c := by
    refine eq_of_get fun leaf => ?_
    rw [on, get_ofLeaves, if_pos (Finset.mem_univ leaf)]
  rwa [hon] at hall

/-- For one, two settings among other members are decoded over the defaults. -/
theorem Settings.ofJson_overlay_port :
    let c : Settings :=
      { schema := some "s", logging := { level := .trace }, generator := { serverPort := 8080 } }
    let S : Finset Leaf := {.schema, .serverPort}
    let members : List (String × Tree) :=
      [("x", .array [.null]),
       ("generator", .object [("server_port", .number (.ofInt 8080))]),
       ("$schema", .string "s")]
    let text := "\x7b\"x\":[null], \"generator\":\x7b\"server_port\":8080\x7d,\"$schema\":\"s\"\x7d"
    Overlays c S members ∧ TextDenotes text (.object members) ∧
      ofJson text = .ok { schema := some "s", generator := { serverPort := 8080 } } ∧
        ofJson c.toJson.print = .ok c := by
  intro c S members text
  have hoverlays : Overlays c S members := by
    refine ⟨.of_nodup (by decide) ?_, ?_, ?_⟩
    · intro sec hsec v hv
      obtain rfl | rfl : sec = "logging" ∨ sec = "generator" := by
        simpa [sectionNames] using hsec
      · cases hv
      · obtain rfl := Option.some.inj hv
        exact ⟨_, rfl, by decide⟩
    · simp only [S, Finset.mem_insert, Finset.mem_singleton, forall_eq_or_imp, forall_eq]
      exact ⟨rfl, .ofInt 8080, rfl, Json.Literal.plain_ofInt 8080⟩
    · intro leaf hleaf
      cases leaf <;> first | rfl | exact absurd hleaf (by decide)
  have htext : TextDenotes text (.object members) := by
    have hkey : ∀ name ∈ ["x", "generator", "server_port", "$schema", "s"],
        Json.StringText name.toList name.toList := by
      simp only [List.forall_mem_cons]
      exact ⟨.plain (by decide), .plain (by decide), .plain (by decide), .plain (by decide),
        .plain (by decide), by simp⟩
    have hblank : Json.IsBlankText [' '] := by simp [Json.IsBlankText]
    have hnumber : Json.Denotes "8080".toList (.number (.ofInt 8080)) :=
      .number (Json.numberText_integerText 8080)
    have hx := Json.MemberText.mk (hkey "x" (by simp)) Json.isBlankText_nil Json.isBlankText_nil
      (Json.Denotes.array (.some Json.isBlankText_nil .null (.done Json.isBlankText_nil)))
    have hport := Json.MemberText.mk (hkey "server_port" (by simp)) Json.isBlankText_nil
      Json.isBlankText_nil hnumber
    have hsection := Json.Denotes.object
      (.some Json.isBlankText_nil hport (.done Json.isBlankText_nil))
    have hgenerator := Json.MemberText.mk (hkey "generator" (by simp)) Json.isBlankText_nil
      Json.isBlankText_nil hsection
    have hschema := Json.MemberText.mk (hkey "$schema" (by simp)) Json.isBlankText_nil
      Json.isBlankText_nil (Json.Denotes.string (hkey "s" (by simp)))
    have hmembers := Json.Denotes.object (.some Json.isBlankText_nil hx
      (.more Json.isBlankText_nil hblank hgenerator
        (.more Json.isBlankText_nil Json.isBlankText_nil hschema (.done Json.isBlankText_nil))))
    simp only [String.ofList_toList] at hmembers
    exact ⟨[], _, [], by decide, Json.isBlankText_nil, Json.isBlankText_nil, hmembers⟩
  have hoverlay := ofJson_overlay c
  exact ⟨hoverlays, htext, hoverlay.1 S members text hoverlays htext, hoverlay.2⟩

end SovdConfig
