import Mathlib.Data.Fintype.Sets
import SovdConfig.Proofs.Json.Nesting
import SovdConfig.Proofs.Layer.Sections
import SovdConfig.Proofs.Settings.Data
import SovdConfig.Proofs.Settings.Fields

namespace SovdConfig

/-!
# Settings one by one

Every setting by itself, and where it stands in JSON data.  Main definitions:

* `Leaf` — the ten settings, with their types, sections and keys;
* `Settings.ofLeaves` — the settings with given values;
* `Leaf.tree?` — what stands under the key of a setting in its section;
* `Leaf.Holds` — whether a JSON value is that of a setting;
* `Json.Sectioned` — members in which the sections are objects, and no setting occurs twice.

Main statement: `Settings.ofJson_eq_ok_iff`, such data are decoded setting by setting, however deep
the members are nested that are none.
-/

open Json (Tree TextDenotes Literal)
open Numeral (valueOf)

/-! ### Leaves -/

/-- The settings. -/
inductive Leaf
  | schema
  | level
  | file
  | serverHost
  | serverPort
  | interface
  | isotpPadding
  | doipPort
  | doipSourceAddress
  | didStorePath
deriving DecidableEq, Repr

namespace Leaf

/-- The type of a setting. -/
def Value : Leaf → Type
  | schema | file => Option String
  | level => LogLevel
  | serverHost | interface | didStorePath => String
  | serverPort | doipPort | doipSourceAddress => UInt16
  | isotpPadding => UInt8

/-- The section in which a setting stands, if it is in one. -/
def section? : Leaf → Option String
  | schema => none
  | level | file => some "logging"
  | _ => some "generator"

/-- The key of a setting in its section. -/
def key : Leaf → String
  | schema => "$schema"
  | level => "level"
  | file => "file"
  | serverHost => "server_host"
  | serverPort => "server_port"
  | interface => "interface"
  | isotpPadding => "isotp_padding"
  | doipPort => "doip_port"
  | doipSourceAddress => "doip_source_address"
  | didStorePath => "did_store_path"

/-- The value of a setting. -/
def get : (leaf : Leaf) → Settings → leaf.Value
  | schema, s => s.schema
  | level, s => s.logging.level
  | file, s => s.logging.file
  | serverHost, s => s.generator.serverHost
  | serverPort, s => s.generator.serverPort
  | interface, s => s.generator.interface
  | isotpPadding, s => s.generator.isotpPadding
  | doipPort, s => s.generator.doipPort
  | doipSourceAddress, s => s.generator.doipSourceAddress
  | didStorePath, s => s.generator.didStorePath

instance : Fintype Leaf :=
  .ofList [schema, level, file, serverHost, serverPort, interface, isotpPadding, doipPort,
    doipSourceAddress, didStorePath] (by rintro (_ | _) <;> decide)

/-- Something holds of all settings if it holds of each of them. -/
theorem forall_iff {P : Leaf → Prop} :
    (∀ leaf, P leaf) ↔ P schema ∧ (P level ∧ P file) ∧ P serverHost ∧ P serverPort ∧
      P interface ∧ P isotpPadding ∧ P doipPort ∧ P doipSourceAddress ∧ P didStorePath := by
  refine ⟨fun h => ⟨h _, ⟨h _, h _⟩, h _, h _, h _, h _, h _, h _, h _⟩, ?_⟩
  rintro ⟨h₁, ⟨h₂, h₃⟩, h₄, h₅, h₆, h₇, h₈, h₉, h₁₀⟩ leaf
  cases leaf <;> assumption

end Leaf

namespace Settings

/-- The settings with given values. -/
def ofLeaves (value : (leaf : Leaf) → leaf.Value) : Settings where
  schema := value .schema
  logging := { level := value .level, file := value .file }
  generator :=
    { serverHost := value .serverHost
      serverPort := value .serverPort
      interface := value .interface
      isotpPadding := value .isotpPadding
      doipPort := value .doipPort
      doipSourceAddress := value .doipSourceAddress
      didStorePath := value .didStorePath }

/-- The settings have those values. -/
@[simp] theorem get_ofLeaves (value : (leaf : Leaf) → leaf.Value) (leaf : Leaf) :
    leaf.get (ofLeaves value) = value leaf := by
  cases leaf <;> rfl

/-- Settings are the same if each of them is. -/
theorem eq_of_get {s t : Settings} (h : ∀ leaf : Leaf, leaf.get s = leaf.get t) : s = t := by
  have heq : ∀ s : Settings, s = ofLeaves fun leaf => leaf.get s := fun _ => rfl
  rw [heq s, heq t, funext h]

end Settings

/-! ### Values -/

namespace Json

/-- Whether a literal is that of a natural number: digits without a sign, a fraction or a power of
    ten. -/
structure Literal.Plain (l : Literal) : Prop where
  unsigned : l.negative = false
  noFraction : l.fraction = []
  noExponent : l.exponent = none

/-- The literal of a natural number is plain and has its value. -/
theorem Literal.plain_ofInt (n : Nat) : (ofInt n).Plain ∧ valueOf (ofInt n).whole = n := by
  refine ⟨⟨?_, rfl, rfl⟩, ?_⟩
  · simp [ofInt]
  · rw [ofInt, Int.natAbs_natCast, Numeral.valueOf_toDigits]

/-- No digit is left over exactly if the number they denote is within the limit. -/
theorem keepDigits_snd_eq_nil_iff {ds : List Char} {n : Nat} (hn : n ≤ integerLimit) :
    (keepDigits n ds).2 = [] ↔ Nat.ofDigitChars 10 ds n ≤ integerLimit := by
  refine ⟨fun h => ?_, fun h => by rw [keepDigits_eq h]⟩
  induction ds generalizing n with
  | nil => simpa using hn
  | cons c ds ih =>
    rw [keepDigits] at h
    rw [Nat.ofDigitChars_cons]
    split at h
    · next hle => exact ih hle h
    · simp at h

/-- The literal of a natural number is read as that number, if it is within a limit. -/
theorem Literal.Plain.asUnsigned? {l : Literal} (h : l.Plain) {limit : Nat}
    (hlimit : limit ≤ integerLimit) :
    Tree.asUnsigned? limit (.number l) =
      if valueOf l.whole ≤ limit then some (valueOf l.whole) else none := by
  obtain ⟨negative, whole, fraction, exponent⟩ := l
  obtain ⟨rfl, rfl, rfl⟩ := h
  rw [Numeral.valueOf_eq_ofDigitChars, Tree.asUnsigned?, number?]
  have hkept := @keepDigits_snd_eq_nil_iff whole 0 (Nat.zero_le integerLimit)
  by_cases hle : Nat.ofDigitChars 10 whole 0 ≤ integerLimit
  · have hdigits := keepDigits_eq hle
    simp [isInteger, hdigits, integerOf, kept, keepDigits, upTo?]
  -- digits beyond 64 bits are read as a double, which is no number within a limit
  · have hinteger : isInteger ⟨false, whole, [], none⟩ = false := by
      simpa [isInteger, hle] using hkept
    have hlarge : ¬ Nat.ofDigitChars 10 whole 0 ≤ limit := fun h => hle (Nat.le_trans h hlimit)
    simp only [hinteger, hlarge, if_false, Bool.false_eq_true, doubleOf?]
    cases scale? _ _ <;> rfl

/-- A text is read from a text, and from nothing else. -/
theorem Tree.asString?_eq_some_iff {v : Tree} {s : String} :
    v.asString? = some s ↔ v = .string s := by
  cases v <;> simp [Tree.asString?]

/-- A text that may be missing is read from a text or from `null`, and from nothing else. -/
theorem Tree.asOptional?_eq_some_iff {v : Tree} {a : Option String} :
    Tree.asOptional? Tree.asString? v = some a ↔ v = (a.map .string).getD .null := by
  cases v <;> cases a <;> simp [Tree.asOptional?, Tree.asString?]

/-- A number in decimal is read into a type that holds the numbers up to a limit. -/
theorem Tree.map_asUnsigned?_eq_some_iff {α : Type} {limit : Nat} {ofNat : Nat → α}
    {toNat : α → Nat} (hlimit : limit ≤ integerLimit) (hround : ∀ k ≤ limit, toNat (ofNat k) = k)
    (hback : ∀ a, ofNat (toNat a) = a) (hbound : ∀ a, toNat a ≤ limit) {v : Tree}
    (hplain : ∀ l, v = .number l → l.Plain) {a : α} :
    (v.asUnsigned? limit).map ofNat = some a ↔
      ∃ l : Literal, v = .number l ∧ l.Plain ∧ valueOf l.whole = toNat a := by
  cases v with
  | number l =>
    have hl := hplain l rfl
    rw [hl.asUnsigned? hlimit]
    constructor
    · intro h
      obtain ⟨n, hn, rfl⟩ := Option.map_eq_some_iff.1 h
      obtain ⟨hle, rfl⟩ : valueOf l.whole ≤ limit ∧ valueOf l.whole = n := by simpa using hn
      exact ⟨l, rfl, hl, (hround _ hle).symm⟩
    · rintro ⟨l', hl', -, hvalue⟩
      obtain rfl := Tree.number.inj hl'
      rw [hvalue, if_pos (hbound a), Option.map_some, hback]
  | _ => simp [Tree.asUnsigned?]

end Json

namespace Leaf

/-- What a JSON value is read as for a setting. -/
def ofTree? : (leaf : Leaf) → Tree → Option leaf.Value
  | schema | file => Tree.asOptional? Tree.asString?
  | level => Tree.asVariant? LogLevel.ofName?
  | serverHost | interface | didStorePath => Tree.asString?
  | serverPort | doipPort | doipSourceAddress => Tree.asWord?
  | isotpPadding => Tree.asByte?

/-- Whether a JSON value is that of a setting: a text, the name of a level, or a number in decimal;
    a setting without a value is `null`. -/
def Holds : (leaf : Leaf) → leaf.Value → Tree → Prop
  | schema, a, v | file, a, v => v = (a.map Tree.string).getD .null
  | level, a, v => v = .string a.name
  | serverHost, a, v | interface, a, v | didStorePath, a, v => v = .string a
  | serverPort, a, v | doipPort, a, v | doipSourceAddress, a, v =>
    ∃ l : Literal, v = .number l ∧ l.Plain ∧ valueOf l.whole = a.toNat
  | isotpPadding, a, v => ∃ l : Literal, v = .number l ∧ l.Plain ∧ valueOf l.whole = a.toNat

/-- Whether a setting is a number. -/
def IsNumeric (leaf : Leaf) : Prop :=
  leaf ∈ [serverPort, isotpPadding, doipPort, doipSourceAddress]

/-- What is read for a setting is the value of that setting, if a number is in decimal and a log
    level is a text. -/
theorem ofTree?_eq_some_iff {leaf : Leaf} {a : leaf.Value} {v : Tree}
    (hplain : leaf.IsNumeric → ∀ l, v = .number l → l.Plain)
    (hlevel : leaf = level → ∃ s, v = .string s) :
    leaf.ofTree? v = some a ↔ leaf.Holds a v := by
  cases leaf with
  | schema | file => exact Tree.asOptional?_eq_some_iff
  | level =>
    obtain ⟨s, rfl⟩ := hlevel rfl
    constructor
    · intro h
      have hname := List.find?_some (show LogLevel.ofName? s = some a from h)
      simpa [Holds, eq_comm] using hname
    · intro h
      obtain rfl := Tree.string.inj h
      exact LogLevel.ofName?_name a
  | serverHost | interface | didStorePath => exact Tree.asString?_eq_some_iff
  | serverPort | doipPort | doipSourceAddress =>
    exact Tree.map_asUnsigned?_eq_some_iff (by decide) toNat_word (fun _ => UInt16.ofNat_toNat)
      (fun a => Nat.le_of_lt_succ a.toNat_lt) (hplain (by simp [IsNumeric]))
  | isotpPadding =>
    exact Tree.map_asUnsigned?_eq_some_iff (by decide) toNat_byte (fun _ => UInt8.ofNat_toNat)
      (fun a => Nat.le_of_lt_succ a.toNat_lt) (hplain (by simp [IsNumeric]))

/-- A value of a number is a number in decimal. -/
theorem Holds.plain {leaf : Leaf} {a : leaf.Value} {v : Tree} (h : leaf.Holds a v)
    (hnumeric : leaf.IsNumeric) {l : Literal} (hl : v = .number l) : l.Plain := by
  cases leaf with
  | serverPort | isotpPadding | doipPort | doipSourceAddress =>
    obtain ⟨_, rfl, hplain, -⟩ := h
    exact Tree.number.inj hl ▸ hplain
  | _ => simp [IsNumeric] at hnumeric

/-- The JSON value of a setting is read as that value. -/
theorem Holds.ofTree? {leaf : Leaf} {a : leaf.Value} {v : Tree} (h : leaf.Holds a v) :
    leaf.ofTree? v = some a :=
  (ofTree?_eq_some_iff (fun hnumeric _ => h.plain hnumeric)
    (by rintro rfl; exact ⟨a.name, h⟩)).2 h

end Leaf

/-! ### Sections -/

/-- The members of a section, or of the whole; a section that is left out has none. -/
def Json.membersIn (members : List (String × Tree)) : Option String → List (String × Tree)
  | none => members
  | some sec =>
    match members.lookup sec with
    | some (.object inner) => inner
    | _ => []

/-- What stands under the key of a setting in its section. -/
def Leaf.tree? (leaf : Leaf) (members : List (String × Tree)) : Option Tree :=
  (Json.membersIn members leaf.section?).lookup leaf.key

/-- It stands among the members of the section. -/
theorem Leaf.tree?_eq {leaf : Leaf} {members inner : List (String × Tree)} {sec : Option String}
    (h : Json.membersIn members sec = inner) (hsec : leaf.section? = sec) :
    leaf.tree? members = inner.lookup leaf.key := by
  rw [tree?, hsec, h]

/-- Members in which the sections are objects, and neither they nor the settings occur twice. -/
structure Json.Sectioned (members : List (String × Tree)) : Prop where
  isObject : ∀ sec ∈ sectionNames, ∀ v, members.lookup sec = some v → ∃ inner, v = .object inner
  section_once : ∀ sec ∈ sectionNames, (members.map Prod.fst).count sec ≤ 1
  setting_once :
    ∀ leaf : Leaf, ((Json.membersIn members leaf.section?).map Prod.fst).count leaf.key ≤ 1

namespace Json.Sectioned

variable {members : List (String × Tree)}

/-- Sections that are objects are there once if no name occurs twice, in the whole or in them. -/
theorem of_nodup (h : (members.map Prod.fst).Nodup)
    (hsections : ∀ sec ∈ sectionNames, ∀ v, members.lookup sec = some v →
      ∃ inner, v = .object inner ∧ (inner.map Prod.fst).Nodup) : Sectioned members where
  isObject sec hsec v hv := by
    obtain ⟨inner, hinner, -⟩ := hsections sec hsec v hv
    exact ⟨inner, hinner⟩
  section_once sec _ := List.nodup_iff_count_le_one.1 h sec
  setting_once leaf := by
    have hinside : ∀ sec ∈ sectionNames, ((membersIn members (some sec)).map Prod.fst).Nodup := by
      intro sec hsec
      rcases hlookup : members.lookup sec with - | v
      · simp [membersIn, hlookup]
      · obtain ⟨inner, rfl, hinner⟩ := hsections sec hsec v hlookup
        simpa [membersIn, hlookup] using hinner
    have hall : ((membersIn members leaf.section?).map Prod.fst).Nodup := by
      cases leaf <;> first | exact h | exact hinside _ (by decide)
    exact List.nodup_iff_count_le_one.1 hall _

/-- A record is filled with the members of an object if none of its names occurs twice. -/
theorem asRecord?_object {σ : Type} {slots : List (Slot Tree σ)}
    (h : ∀ slot ∈ slots, (members.map Prod.fst).count slot.key ≤ 1) (default : σ) :
    Tree.asRecord? slots default (.object members) = fill slots members default := by
  have hparts : (Tree.object members).parts? (slots.map Slot.key) = some members :=
    if_pos (by simpa using h)
  rw [Tree.asRecord?, hparts, Option.bind_some]

/-- A section is filled with its members; one that is left out has the defaults. -/
theorem gives_section_iff (h : Sectioned members) {sec : String} (hsec : sec ∈ sectionNames)
    {σ : Type} {slots : List (Slot Tree σ)}
    (hcount : ∀ slot ∈ slots, ((membersIn members (some sec)).map Prod.fst).count slot.key ≤ 1)
    {default a : σ} :
    Gives (members.lookup sec) (Tree.asRecord? slots default) default a ↔
      fill slots (membersIn members (some sec)) default = some a := by
  rcases hlookup : members.lookup sec with - | v
  · have hin : membersIn members (some sec) = [] := by simp only [membersIn, hlookup]
    rw [hin]
    simp [Gives, fill, eq_comm]
  · obtain ⟨inner, rfl⟩ := h.isObject sec hsec v hlookup
    have hin : membersIn members (some sec) = inner := by simp only [membersIn, hlookup]
    rw [hin] at hcount ⊢
    rw [Gives, asRecord?_object hcount]

/-- How JSON values are read as settings. -/
def readings : Readings Tree where
  level := Tree.asVariant? LogLevel.ofName?
  text := Tree.asString?
  optionalText := Tree.asOptional? Tree.asString?
  word := Tree.asWord?
  byte := Tree.asByte?

/-- The settings are read from such members one by one. -/
theorem asRecord?_eq_some_iff (h : Sectioned members) {s : Settings} :
    Tree.asRecord? jsonSettingsSlots {} (.object members) = some s ↔
      ∀ leaf : Leaf, Gives (leaf.tree? members) leaf.ofTree? (leaf.get {}) (leaf.get s) := by
  have hwhole : ∀ slot ∈ readings.settingsSlots (Tree.asRecord? jsonLoggingSlots {})
      (Tree.asRecord? jsonGeneratorSlots {}), (members.map Prod.fst).count slot.key ≤ 1 := by
    simp only [Readings.settingsSlots, Slot.ofField, List.forall_mem_cons]
    exact ⟨h.setting_once .schema, h.section_once _ (by decide), h.section_once _ (by decide),
      by simp⟩
  have hlogging : ∀ slot ∈ readings.loggingSlots,
      ((membersIn members (some "logging")).map Prod.fst).count slot.key ≤ 1 := by
    simp only [Readings.loggingSlots, Slot.ofField, List.forall_mem_cons]
    exact ⟨h.setting_once .level, h.setting_once .file, by simp⟩
  have hgenerator : ∀ slot ∈ readings.generatorSlots,
      ((membersIn members (some "generator")).map Prod.fst).count slot.key ≤ 1 := by
    simp only [Readings.generatorSlots, Slot.ofField, List.forall_mem_cons]
    exact ⟨h.setting_once .serverHost, h.setting_once .serverPort, h.setting_once .interface,
      h.setting_once .isotpPadding, h.setting_once .doipPort, h.setting_once .doipSourceAddress,
      h.setting_once .didStorePath, by simp⟩
  have hslots : Tree.asRecord? jsonSettingsSlots {} (.object members) =
      fill (readings.settingsSlots (Tree.asRecord? jsonLoggingSlots {})
        (Tree.asRecord? jsonGeneratorSlots {})) members {} := asRecord?_object hwhole _
  rw [hslots, Readings.fill_settingsSlots_iff hwhole, Readings.settingsGiven_iff,
    show jsonLoggingSlots = readings.loggingSlots from rfl,
    show jsonGeneratorSlots = readings.generatorSlots from rfl,
    h.gives_section_iff (by decide) hlogging, h.gives_section_iff (by decide) hgenerator,
    Readings.fill_loggingSlots_iff hlogging, Readings.fill_generatorSlots_iff hgenerator,
    Readings.loggingGiven_iff, Readings.generatorGiven_iff, Leaf.forall_iff]
  rfl

end Json.Sectioned

/-! ### Whole texts -/

/-- The reader of settings looks a few levels deep. -/
theorem Settings.decoder_shallow : decoder.Shallow Json.nestingLimit := by
  have hnumber : ∀ {α : Type} (limit : Nat) (typeName : String) (f : Nat → α),
      ((Json.Decoder.unsigned limit typeName).map f).Shallow 2 :=
    fun limit typeName f => .map (.unsigned limit typeName) f
  have hlogging : LoggingSettings.decoder.Shallow 4 := .record (by
    simp only [List.forall_mem_cons]
    exact ⟨.field (.variant _ _) _ _, .field (.optional .string) _ _, by simp⟩) _ _
  have hgenerator : GeneratorSettings.decoder.Shallow 4 := .record (by
    simp only [List.forall_mem_cons]
    exact ⟨.field .string _ _, .field (hnumber _ _ _) _ _, .field .string _ _,
      .field (hnumber _ _ _) _ _, .field (hnumber _ _ _) _ _, .field (hnumber _ _ _) _ _,
      .field .string _ _, by simp⟩) _ _
  have hwhole : decoder.Shallow 6 := .record (by
    simp only [List.forall_mem_cons]
    exact ⟨.field (.optional .string) _ _, .field hlogging _ _, .field hgenerator _ _,
      by simp⟩) _ _
  exact hwhole.mono (by decide)

/-- A text whose sections are objects is decoded setting by setting. -/
theorem Settings.ofJson_eq_ok_iff {text : String} {members : List (String × Tree)}
    (htext : TextDenotes text (.object members)) (h : Json.Sectioned members) {s : Settings} :
    ofJson text = .ok s ↔
      ∀ leaf : Leaf, Gives (leaf.tree? members) leaf.ofTree? (leaf.get {}) (leaf.get s) := by
  have hread := Json.Decoder.toOption_ofText_of_shallow decoder_reads decoder_shallow htext
  rw [← toOption_eq_some_iff, ofJson, hread, h.asRecord?_eq_some_iff]

end SovdConfig
