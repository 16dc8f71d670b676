import SovdConfig.Proofs.Json.Printing
import SovdConfig.Proofs.Schema.Shape
import SovdConfig.Settings.Schema

namespace SovdConfig

/-!
# The schema and the reader of settings

Main definitions:

* `Leaf.shape`, `Schema.sectionShape`, `Schema.shape` — what the schema of the configuration file
  demands of a setting, of a section and of the whole;
* `Json.Tree.Distinct` — whether no name occurs twice in an object;
* `Json.Tree.NumbersPlain` — whether the settings that are numbers are natural numbers in decimal;
* `Json.Typed` — whether the members are of the types for which the reader asks no more than the
  schema.

Main statement: `Schema.agrees`, what the schema accepts is decoded to the settings that it holds,
and what is decoded is accepted.
-/

open Json (Tree TextDenotes Literal membersIn)
open Numeral (valueOf)
open Schema (Shape)

/-! ### Values -/

namespace Json.Tree

mutual

/-- Whether no name occurs twice in an object. -/
def Distinct : Tree → Prop
  | array items => DistinctAll items
  | object members => (members.map Prod.fst).Nodup ∧ DistinctMembers members
  | _ => True

/-- Whether no name occurs twice in the items of a list. -/
def DistinctAll : List Tree → Prop
  | [] => True
  | v :: rest => v.Distinct ∧ DistinctAll rest

/-- Whether no name occurs twice in the values of members. -/
def DistinctMembers : List (String × Tree) → Prop
  | [] => True
  | (_, v) :: rest => v.Distinct ∧ DistinctMembers rest

end

/-- The members of an object; anything else has none. -/
def members : Tree → List (String × Tree)
  | object members => members
  | _ => []

/-- No name occurs twice in the value of a member. -/
theorem distinct_of_mem {members : List (String × Tree)} (h : DistinctMembers members)
    {m : String × Tree} (hm : m ∈ members) : m.2.Distinct := by
  induction members with
  | nil => simp at hm
  | cons first rest ih =>
    obtain ⟨hfirst, hrest⟩ := h
    rcases List.mem_cons.1 hm with rfl | hm
    · exact hfirst
    · exact ih hrest hm

end Json.Tree

/-- Whether the settings that are numbers are natural numbers in decimal. -/
def Json.Tree.NumbersPlain (v : Tree) : Prop :=
  ∀ leaf : Leaf, leaf.IsNumeric → ∀ l, leaf.tree? v.members = some (.number l) → l.Plain

/-- Whether the sections are objects, and the reference to a schema and the log level are texts. -/
structure Json.Typed (members : List (String × Tree)) : Prop where
  isObject : ∀ sec ∈ sectionNames, ∀ v, members.lookup sec = some v → ∃ inner, v = .object inner
  schema : ∀ v, Leaf.schema.tree? members = some v → ∃ s, v = .string s
  level : ∀ v, Leaf.level.tree? members = some v → ∃ s, v = .string s

/-! ### Demands on settings -/

namespace Schema

/-- The demand on a text. -/
def textShape : Shape := .allOf [.types [.string]]

/-- The demand on a text that may be missing. -/
def optionalTextShape : Shape := .allOf [.types [.string, .null]]

/-- The demand on a natural number up to a limit. -/
def numberShape (limit : Nat) : Shape :=
  .allOf [.types [.integer], .maximum (Literal.ofInt limit).value, .minimum (Literal.ofInt 0).value]

/-- The demand on one of several names. -/
def nameShape (names : List String) : Shape :=
  .oneOf (names.map fun name => .allOf [.types [.string], .const name])

/-- The demand on the name of a log level, which is a definition that is referred to. -/
def levelShape : Shape := .allOf [.allOf [.allOf [nameShape LogLevel.names]]]

/-- A text is accepted, and nothing else. -/
theorem accepts_textShape {v : Tree} : textShape.accepts v = true ↔ ∃ s, v = .string s := by
  rw [textShape, Shape.accepts_allOf]
  cases v <;> simp [Shape.accepts, Kind.includes]

/-- A text or nothing is accepted, and nothing else. -/
theorem accepts_optionalTextShape {v : Tree} :
    optionalTextShape.accepts v = true ↔ ∃ a : Option String, v = (a.map .string).getD .null := by
  rw [optionalTextShape, Shape.accepts_allOf]
  cases v <;> simp [Shape.accepts, Kind.includes, Option.exists]

/-- The names that a text meets are those that it is. -/
theorem countAccepting_names (names : List String) (v : Tree) :
    Shape.countAccepting (names.map fun name => .allOf [.types [.string], .const name]) v =
      match v with
      | .string s => names.count s
      | _ => 0 := by
  induction names with
  | nil => cases v <;> rfl
  | cons name rest ih =>
    rw [List.map_cons, Shape.countAccepting, ih]
    cases v with
    | string s =>
      have hname : (Shape.allOf [.types [.string], .const name]).accepts (.string s) = true ↔
          name = s := by
        rw [Shape.accepts_allOf, eq_comm]
        simp [Shape.accepts, Kind.includes]
      simp only [hname, List.count_cons, beq_iff_eq]
      exact Nat.add_comm _ _
    | _ =>
      -- what is no text meets none of the names, so that the count stays zero
      have hother : ∀ w : Tree, (∀ s, w ≠ .string s) →
          (Shape.allOf [.types [.string], .const name]).accepts w = false := by
        intro w hw
        rw [← Bool.not_eq_true, Shape.accepts_allOf]
        cases w <;> simp_all [Shape.accepts]
      rw [hother _ (by simp)]
      rfl

/-- One of several different names is accepted, and nothing else. -/
theorem accepts_nameShape {names : List String} (h : names.Nodup) {v : Tree} :
    (nameShape names).accepts v = true ↔ ∃ s ∈ names, v = .string s := by
  rw [nameShape, Shape.accepts, decide_eq_true_iff, countAccepting_names]
  cases v with
  | string s => simp [h.count]
  | _ => simp

/-- A natural number in decimal is accepted up to the limit. -/
theorem accepts_numberShape {limit : Nat} {v : Tree} (hplain : ∀ l, v = .number l → l.Plain) :
    (numberShape limit).accepts v = true ↔
      ∃ l, v = .number l ∧ l.Plain ∧ valueOf l.whole ≤ limit := by
  rw [numberShape, Shape.accepts_allOf]
  cases v with
  | number l =>
    have hl := hplain l rfl
    have hzero : (Literal.ofInt 0).value = 0 := by simpa using Literal.value_ofInt 0
    simp [Shape.accepts, Kind.includes, hl.value, Literal.value_ofInt, hzero, hl]
  | _ => simp [Shape.accepts, Kind.includes]

/-- The name of a log level is accepted, and nothing else. -/
theorem accepts_levelShape {v : Tree} :
    levelShape.accepts v = true ↔ ∃ level : LogLevel, v = .string level.name := by
  have hnodup : LogLevel.names.Nodup := by decide
  have hall : ∀ level, level ∈ LogLevel.all := by
    intro level
    cases level <;> decide
  simp only [levelShape, Shape.accepts_allOf, List.forall_mem_singleton, accepts_nameShape hnodup]
  simp [LogLevel.names, hall]

/-- The numbers that are accepted are those of the type of a setting. -/
theorem exists_plain_iff {α : Type} {limit : Nat} {ofNat : Nat → α} {toNat : α → Nat}
    (hround : ∀ k ≤ limit, toNat (ofNat k) = k) (hbound : ∀ a, toNat a ≤ limit) {v : Tree} :
    (∃ l : Literal, v = .number l ∧ l.Plain ∧ valueOf l.whole ≤ limit) ↔
      ∃ a, ∃ l : Literal, v = .number l ∧ l.Plain ∧ valueOf l.whole = toNat a := by
  constructor
  · rintro ⟨l, rfl, hl, hle⟩
    exact ⟨ofNat (valueOf l.whole), l, rfl, hl, (hround _ hle).symm⟩
  · rintro ⟨a, l, rfl, hl, hvalue⟩
    exact ⟨l, rfl, hl, hvalue ▸ hbound a⟩

end Schema

namespace Leaf

/-- What the schema demands of a setting. -/
def shape : Leaf → Shape
  | schema | serverHost | interface | didStorePath => Schema.textShape
  | level => Schema.levelShape
  | file => Schema.optionalTextShape
  | serverPort | doipPort | doipSourceAddress => Schema.numberShape 65535
  | isotpPadding => Schema.numberShape 255

/-- What is accepted for a setting is the value of some setting, and the other way round.  Only the
    reference to a schema is a setting without a value that the schema does not accept as `null`. -/
theorem accepts_iff {leaf : Leaf} (hne : leaf ≠ schema) {v : Tree}
    (hplain : leaf.IsNumeric → ∀ l, v = .number l → l.Plain) :
    leaf.shape.accepts v = true ↔ ∃ a, leaf.Holds a v := by
  cases leaf with
  | schema => exact absurd rfl hne
  | level => exact Schema.accepts_levelShape
  | file => exact Schema.accepts_optionalTextShape
  | serverHost | interface | didStorePath => exact Schema.accepts_textShape
  | serverPort | doipPort | doipSourceAddress =>
    exact (Schema.accepts_numberShape (hplain (by simp [IsNumeric]))).trans
      (Schema.exists_plain_iff toNat_word fun a => Nat.le_of_lt_succ a.toNat_lt)
  | isotpPadding =>
    exact (Schema.accepts_numberShape (hplain (by simp [IsNumeric]))).trans
      (Schema.exists_plain_iff toNat_byte fun a => Nat.le_of_lt_succ a.toNat_lt)

/-- What is accepted for a setting is the value of some setting. -/
theorem exists_holds_of_accepts (leaf : Leaf) {v : Tree} (h : leaf.shape.accepts v = true)
    (hplain : leaf.IsNumeric → ∀ l, v = .number l → l.Plain) : ∃ a, leaf.Holds a v := by
  by_cases hschema : leaf = schema
  · subst hschema
    obtain ⟨s, rfl⟩ := Schema.accepts_textShape.1 h
    exact ⟨some s, rfl⟩
  · exact (accepts_iff hschema hplain).1 h

end Leaf

/-! ### Demands on the whole -/

namespace Schema

/-- The demand on a section, which is a definition that is referred to. -/
def sectionShape (leaves : List Leaf) : Shape :=
  .allOf [.allOf [.allOf
    [.types [.object], .properties (leaves.map fun leaf => (leaf.key, leaf.shape))]]]

/-- The settings of the section `generator`, by name. -/
def generatorLeaves : List Leaf :=
  [.didStorePath, .doipPort, .doipSourceAddress, .interface, .isotpPadding, .serverHost,
    .serverPort]

/-- The settings of the section `logging`, by name. -/
def loggingLeaves : List Leaf := [.file, .level]

/-- The demand on the whole. -/
def shape : Shape :=
  .allOf
    [.types [.object],
     .properties
       [("$schema", Leaf.schema.shape),
        ("generator", sectionShape generatorLeaves),
        ("logging", sectionShape loggingLeaves)]]

/-- It is the demand of the schema. -/
theorem of?_document (project address : String) :
    ∃ t, (document project address).toTree? = some t ∧ Shape.of? t = some shape :=
  ⟨_, rfl, rfl⟩

/-- If no name occurs twice, the members of a name are what is found under it. -/
theorem forall_member_iff {members : List (String × Tree)} (h : (members.map Prod.fst).Nodup)
    {name : String} {P : Tree → Prop} :
    (∀ m ∈ members, m.1 = name → P m.2) ↔ ∀ t, members.lookup name = some t → P t := by
  constructor
  · intro hall t ht
    exact hall _ (mem_of_lookup_eq_some ht) rfl
  · rintro hall ⟨key, t⟩ hm rfl
    exact hall t (lookup_of_mem_of_nodup hm h)

/-- An object is accepted as a section if the settings in it are accepted, and nothing else is. -/
theorem accepts_sectionShape {leaves : List Leaf} {v : Tree} :
    (sectionShape leaves).accepts v = true ↔
      ∃ inner, v = .object inner ∧
        ∀ leaf ∈ leaves, ∀ m ∈ inner, m.1 = leaf.key → leaf.shape.accepts m.2 = true := by
  simp only [sectionShape, Shape.accepts_allOf, List.forall_mem_cons]
  cases v with
  | object inner =>
    rw [Shape.accepts_properties, List.forall_mem_map]
    simp [Shape.accepts, Kind.includes]
  | _ => simp [Shape.accepts, Kind.includes]

variable {members : List (String × Tree)}

/-- A section is accepted, if it is there, if it is an object and its settings are accepted. -/
theorem accepts_section_iff (h : (Tree.object members).Distinct) {sec : String}
    {leaves : List Leaf} (hleaves : ∀ leaf ∈ leaves, leaf.section? = some sec) :
    (∀ t, members.lookup sec = some t → (sectionShape leaves).accepts t = true) ↔
      (∀ v, members.lookup sec = some v → ∃ inner, v = .object inner) ∧
        ∀ leaf ∈ leaves, ∀ t, leaf.tree? members = some t → leaf.shape.accepts t = true := by
  simp only [accepts_sectionShape]
  rcases hlookup : members.lookup sec with - | v
  · have hnone : ∀ leaf ∈ leaves, leaf.tree? members = none := by
      intro leaf hleaf
      rw [Leaf.tree?, hleaves leaf hleaf, membersIn, hlookup]
      rfl
    simp +contextual [hnone]
  · have hobject : ∀ inner, v = .object inner →
        ((∀ leaf ∈ leaves, ∀ m ∈ inner, m.1 = leaf.key → leaf.shape.accepts m.2 = true) ↔
          ∀ leaf ∈ leaves, ∀ t, leaf.tree? members = some t → leaf.shape.accepts t = true) := by
      rintro inner rfl
      have hin : membersIn members (some sec) = inner := by simp only [membersIn, hlookup]
      have hdistinct : (Tree.object inner).Distinct :=
        Tree.distinct_of_mem h.2 (mem_of_lookup_eq_some hlookup)
      refine forall₂_congr fun leaf hleaf => ?_
      rw [Leaf.tree?_eq hin (hleaves leaf hleaf)]
      exact forall_member_iff (P := fun t => leaf.shape.accepts t = true) hdistinct.1
    constructor
    · intro haccepts
      obtain ⟨inner, rfl, hinner⟩ := haccepts v rfl
      exact ⟨fun w hw => ⟨inner, (Option.some.inj hw).symm⟩, (hobject inner rfl).1 hinner⟩
    · rintro ⟨hsection, hsettings⟩ w hw
      obtain ⟨inner, rfl⟩ := hsection v rfl
      exact ⟨inner, (Option.some.inj hw).symm, (hobject inner rfl).2 hsettings⟩

/-- An object is accepted if its sections are objects and its settings are accepted. -/
theorem accepts_shape (h : (Tree.object members).Distinct) :
    shape.accepts (.object members) = true ↔
      (∀ sec ∈ sectionNames, ∀ v, members.lookup sec = some v → ∃ inner, v = .object inner) ∧
        ∀ leaf : Leaf, ∀ t, leaf.tree? members = some t → leaf.shape.accepts t = true := by
  have hmember : ∀ (name : String) (shape : Shape),
      (∀ m ∈ members, m.1 = name → shape.accepts m.2 = true) ↔
        ∀ t, members.lookup name = some t → shape.accepts t = true :=
    fun name shape => forall_member_iff (P := fun t => shape.accepts t = true) h.1
  have hkind : (Shape.types [.object]).accepts (.object members) = true := rfl
  have hmembers : shape.accepts (.object members) = true ↔
      (∀ t, members.lookup "$schema" = some t → Leaf.schema.shape.accepts t = true) ∧
        (∀ t, members.lookup "generator" = some t →
          (sectionShape generatorLeaves).accepts t = true) ∧
        (∀ t, members.lookup "logging" = some t →
          (sectionShape loggingLeaves).accepts t = true) := by
    simp only [shape, Shape.accepts_allOf, List.forall_mem_cons, hkind, Shape.accepts_properties,
      hmember]
    simp
  -- each section is an object, and each of its settings has its own shape
  rw [hmembers, accepts_section_iff h (by simp [generatorLeaves, Leaf.section?]),
    accepts_section_iff h (by simp [loggingLeaves, Leaf.section?])]
  constructor
  · rintro ⟨hschema, ⟨hgenerator, hinGenerator⟩, hlogging, hinLogging⟩
    refine ⟨?_, fun leaf => ?_⟩
    · simp only [sectionNames, List.forall_mem_cons]
      exact ⟨hlogging, hgenerator, by simp⟩
    · cases leaf with
      | schema => exact hschema
      | level | file => exact hinLogging _ (by decide)
      | _ => exact hinGenerator _ (by decide)
  · rintro ⟨hsections, hsettings⟩
    exact ⟨hsettings .schema,
      ⟨hsections "generator" (by decide), fun leaf _ => hsettings leaf⟩,
      ⟨hsections "logging" (by decide), fun leaf _ => hsettings leaf⟩⟩

/-- Only an object is accepted. -/
theorem exists_object_of_accepts {v : Tree} (h : shape.accepts v = true) :
    ∃ members, v = .object members := by
  rw [shape, Shape.accepts_allOf] at h
  have hkind := h _ List.mem_cons_self
  cases v with
  | object members => exact ⟨members, rfl⟩
  | _ => simp [Shape.accepts, Kind.includes] at hkind

/-! ### Agreement -/

/-- Sections that are objects are there once if no name occurs twice. -/
theorem sectioned_of_distinct (h : (Tree.object members).Distinct)
    (hobject : ∀ sec ∈ sectionNames, ∀ v, members.lookup sec = some v →
      ∃ inner, v = .object inner) : Json.Sectioned members := by
  refine .of_nodup h.1 fun sec hsec v hv => ?_
  obtain ⟨inner, rfl⟩ := hobject sec hsec v hv
  have hinner : (Tree.object inner).Distinct :=
    Tree.distinct_of_mem h.2 (mem_of_lookup_eq_some hv)
  exact ⟨inner, rfl, hinner.1⟩

variable {source : String} {v : Tree}

/-- What is accepted is decoded to the settings that it holds. -/
theorem ofJson_of_accepts (htext : TextDenotes source v) (hdistinct : v.Distinct)
    (hplain : v.NumbersPlain) (h : shape.accepts v = true) :
    ∃ s, Settings.ofJson source = .ok s ∧
      ∀ (leaf : Leaf) (t : Tree), leaf.tree? v.members = some t → leaf.Holds (leaf.get s) t := by
  obtain ⟨members, rfl⟩ := exists_object_of_accepts h
  obtain ⟨hobject, hsettings⟩ := (accepts_shape hdistinct).1 h
  -- a setting that is there has the value for which it was accepted, any other one its default
  have hvalue : ∀ leaf : Leaf, ∃ a : leaf.Value,
      Gives (leaf.tree? members) leaf.ofTree? (leaf.get {}) a ∧
        ∀ t, leaf.tree? members = some t → leaf.Holds a t := by
    intro leaf
    cases htree : leaf.tree? members with
    | none => exact ⟨leaf.get {}, rfl, by simp⟩
    | some t =>
      obtain ⟨a, ha⟩ := leaf.exists_holds_of_accepts (hsettings leaf t htree)
        fun hnumeric l hl => hplain leaf hnumeric l (hl ▸ htree)
      exact ⟨a, ha.ofTree?, fun w hw => Option.some.inj hw ▸ ha⟩
  choose value hgives hholds using hvalue
  refine ⟨.ofLeaves value, ?_, fun leaf t ht => ?_⟩
  · rw [Settings.ofJson_eq_ok_iff htext (sectioned_of_distinct hdistinct hobject)]
    simpa using hgives
  · rw [Settings.get_ofLeaves]
    exact hholds leaf t ht

/-- What is decoded is accepted, if its members are of the types for which the reader asks no more
    than the schema. -/
theorem accepts_of_ofJson (htext : TextDenotes source (.object members))
    (hdistinct : (Tree.object members).Distinct) (hplain : (Tree.object members).NumbersPlain)
    (htyped : Json.Typed members) {s : Settings} (h : Settings.ofJson source = .ok s) :
    shape.accepts (.object members) = true := by
  have hsectioned := sectioned_of_distinct hdistinct htyped.isObject
  have hgives := (Settings.ofJson_eq_ok_iff htext hsectioned).1 h
  refine (accepts_shape hdistinct).2 ⟨htyped.isObject, fun leaf t ht => ?_⟩
  have hread : leaf.ofTree? t = some (leaf.get s) := by
    simpa [ht, Gives] using hgives leaf
  have hnumber : leaf.IsNumeric → ∀ l, t = .number l → l.Plain :=
    fun hnumeric l hl => hplain leaf hnumeric l (hl ▸ ht)
  by_cases hschema : leaf = .schema
  · -- the reader takes `null` for a missing reference, which the schema does not
    subst hschema
    exact accepts_textShape.2 (htyped.schema t ht)
  · have hholds : leaf.Holds (leaf.get s) t :=
      (Leaf.ofTree?_eq_some_iff hnumber (by rintro rfl; exact htyped.level t ht)).1 hread
    exact (Leaf.accepts_iff hschema hnumber).2 ⟨_, hholds⟩

/-- The schema and the reader of settings agree on JSON data in which no name occurs twice and
    numbers are natural numbers in decimal: what the schema accepts is decoded to the settings that
    it holds, and what is decoded is accepted, if its members are of the right types. -/
theorem agrees (project address : String) :
    ∃ schema shape, TextDenotes (text project address) schema ∧ Shape.of? schema = some shape ∧
      ∀ source v, TextDenotes source v → v.Distinct → v.NumbersPlain →
        (shape.accepts v = true →
          ∃ s, Settings.ofJson source = .ok s ∧
            ∀ (leaf : Leaf) (t : Tree),
              leaf.tree? v.members = some t → leaf.Holds (leaf.get s) t) ∧
          ∀ members, v = .object members → Json.Typed members →
            (∃ s, Settings.ofJson source = .ok s) → shape.accepts v = true := by
  obtain ⟨schema, hschema, hshape⟩ := of?_document project address
  refine ⟨schema, shape, Json.textDenotes_print hschema, hshape, ?_⟩
  intro source v hsource hdistinct hplain
  refine ⟨ofJson_of_accepts hsource hdistinct hplain, ?_⟩
  rintro members rfl htyped ⟨s, hs⟩
  exact accepts_of_ofJson hsource hdistinct hplain htyped hs

/-- For one, a port is accepted as it is decoded. -/
theorem agrees_on_port :
    let members : List (String × Tree) :=
      [("generator", .object [("server_port", .number (.ofInt 8080))])]
    let source := (Json.object [("generator", .object [("server_port", .ofNat 8080)])]).print
    TextDenotes source (.object members) ∧ (Tree.object members).Distinct ∧
      (Tree.object members).NumbersPlain ∧ Json.Typed members ∧
        ∃ schema shape, TextDenotes (text "p" "a") schema ∧ Shape.of? schema = some shape ∧
          shape.accepts (.object members) = true ∧
            ∃ s, Settings.ofJson source = .ok s ∧ s.generator.serverPort.toNat = 8080 := by
  intro members source
  have hsource : TextDenotes source (.object members) := Json.textDenotes_print rfl
  have hdistinct : (Tree.object members).Distinct := by
    simp [members, Tree.Distinct, Tree.DistinctMembers]
  have hport : ∀ leaf : Leaf, ∀ t, leaf.tree? members = some t →
      leaf = .serverPort ∧ t = .number (.ofInt 8080) := by
    intro leaf t ht
    cases leaf with
    | serverPort => exact ⟨rfl, (Option.some.inj ht).symm⟩
    | _ => cases ht
  have hplain : (Tree.object members).NumbersPlain := by
    intro leaf _ l hl
    obtain ⟨-, hl⟩ := hport leaf _ hl
    obtain rfl := Tree.number.inj hl
    exact (Literal.plain_ofInt 8080).1
  have htyped : Json.Typed members := by
    refine ⟨fun sec hsec v hv => ?_, fun v hv => ?_, fun v hv => ?_⟩
    · have hv := mem_of_lookup_eq_some hv
      obtain ⟨rfl, rfl⟩ : sec = "generator" ∧
        v = .object [("server_port", .number (.ofInt 8080))] := by simpa [members] using hv
      exact ⟨_, rfl⟩
    · cases hv
    · cases hv
  have hread : Settings.ofJson source = .ok { generator := { serverPort := 8080 } } := by
    rw [Settings.ofJson_eq_ok_iff hsource (sectioned_of_distinct hdistinct htyped.isObject)]
    intro leaf
    cases leaf <;> rfl
  obtain ⟨schema, shape, hschema, hshape, hagree⟩ := agrees "p" "a"
  obtain ⟨hdecoded, haccepted⟩ := hagree source _ hsource hdistinct hplain
  have haccepts := haccepted members rfl htyped ⟨_, hread⟩
  obtain ⟨s, hs, hholds⟩ := hdecoded haccepts
  obtain ⟨l, hl, -, hvalue⟩ := hholds .serverPort _ rfl
  obtain rfl := Tree.number.inj hl
  exact ⟨hsource, hdistinct, hplain, htyped, schema, shape, hschema, hshape, haccepts, s, hs,
    hvalue.symm.trans (Literal.plain_ofInt 8080).2⟩

end Schema

end SovdConfig
