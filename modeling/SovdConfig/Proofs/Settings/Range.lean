import SovdConfig.Proofs.Settings.Data
import SovdConfig.Proofs.Settings.Layers

namespace SovdConfig

/-!
# Settings that are numbers

Main definitions:

* `NumericSetting`, `numericSettings` — the settings that are numbers, and the greatest of them;
* `NumberGiven` — whether an integer is given for a setting, by the file or by its variable;
* `ValidApart` — whether the sources are valid, apart from one setting;
* `Exact` — whether the numbers from zero to the greatest are taken as they are, and no others.

Main statement: `NumericSetting.taken_exactly`, every reader of settings takes exactly those
numbers.
-/

/-- A setting of the section `generator` that is a number: its key, its greatest value and its
    field. -/
structure NumericSetting where
  key : String
  limit : Nat
  get : GeneratorSettings → Nat

/-- The settings that are numbers. -/
def numericSettings : List NumericSetting :=
  [⟨"server_port", 65535, fun g => g.serverPort.toNat⟩,
   ⟨"doip_port", 65535, fun g => g.doipPort.toNat⟩,
   ⟨"doip_source_address", 65535, fun g => g.doipSourceAddress.toNat⟩,
   ⟨"isotp_padding", 255, fun g => g.isotpPadding.toNat⟩]

/-- Whether a result is there exactly if a number is in range, and then has that number. -/
structure Exact {ε : Type} (setting : NumericSetting) (n : Int) (result : Except ε Settings) :
    Prop where
  accepted : (∃ s, result = .ok s) ↔ 0 ≤ n ∧ n ≤ setting.limit
  value : ∀ s, result = .ok s → (setting.get s.generator : Int) = n

/-- How an integer is given for a setting: in the file, or as a text in its variable, the other of
    the two leaving it out. -/
inductive NumberGiven (ofVariables : String → String → Option String)
    (ofFile : String → String → Option Toml) (key : String) (n : Int) : Prop
  | inFile : ofVariables "generator" key = none → ofFile "generator" key = some (.integer n) →
    NumberGiven ofVariables ofFile key n
  | inVariable {text : String} : ofVariables "generator" key = some text →
    ofFile "generator" key = none → DecimalText text.toList n →
      NumberGiven ofVariables ofFile key n

/-- What a source says apart from one setting of the section `generator`. -/
def without {δ : Type} (key : String) (given : String → String → Option δ) (sec name : String) :
    Option δ :=
  if sec = "generator" ∧ name = key then none else given sec name

/-- Whether the sources are valid, apart from one setting of the section `generator`. -/
structure ValidApart (env : Environment) (members : List (String × Toml)) (key : String) :
    Prop where
  plainVariables : PlainVariables env
  textVariables : TextVariables env
  plainFile : PlainFile members
  others : ∃ upper lower logFile, Says (without key (variableSetting? env)) .ofVariable upper ∧
    Says (without key (fileSetting? members)) .ofFile lower ∧
      Converts (upper.over lower).logging.file
        (fun file => (Expansion.expandText env file).toOption) logFile

/-! ### Numbers in layers -/

section

variable {known : String → String → Option Datum} {source : Option String} {n : Int}

/-- A number in range is kept by a type that keeps the numbers in range. -/
theorem toNat_ofNat_toNat {α : Type} {limit : Nat} {ofNat : Nat → α} {toNat : α → Nat}
    (hround : ∀ k ≤ limit, toNat (ofNat k) = k) (hrange : 0 ≤ n ∧ n ≤ limit) :
    (toNat (ofNat n.toNat) : Int) = n := by
  rw [hround _ (by omega)]
  omega

/-- What is read as a number within the limit is in range, and is that number. -/
theorem exact_of_reads {α : Type} {bits limit : Nat} (hlimit : twoPower bits = limit + 1)
    {ofNat : Nat → α} {toNat : α → Nat} (hround : ∀ k ≤ limit, toNat (ofNat k) = k) {default a : α}
    {given : Option Datum} (hgiven : given = some (.scalar source (.integer n)))
    (h : Gives given (reads? fun d => (Datum.toUnsigned bits d).map ofNat) default a) :
    (0 ≤ n ∧ n ≤ limit) ∧ (toNat a : Int) = n := by
  subst hgiven
  have hread : reads? (fun d => (Datum.toUnsigned bits d).map ofNat)
    (.scalar source (.integer n)) = some a := h
  rw [reads?_integer hlimit] at hread
  by_cases hrange : 0 ≤ n ∧ n ≤ limit
  · rw [if_pos hrange] at hread
    obtain rfl := Option.some.inj hread
    exact ⟨hrange, toNat_ofNat_toNat hround hrange⟩
  · simp [hrange] at hread

/-- Settings have the number that is given, and it is in range. -/
theorem NumericSetting.eq_of_settingsAre {setting : NumericSetting} (h : setting ∈ numericSettings)
    {s : Settings} (hs : SettingsAre known s)
    (hgiven : known "generator" setting.key = some (.scalar source (.integer n))) :
    (0 ≤ n ∧ n ≤ setting.limit) ∧ (setting.get s.generator : Int) = n := by
  revert hgiven
  revert setting
  simp only [numericSettings, List.forall_mem_cons]
  exact ⟨fun hgiven => exact_of_reads rfl toNat_word hgiven hs.generator.serverPort,
    fun hgiven => exact_of_reads rfl toNat_word hgiven hs.generator.doipPort,
    fun hgiven => exact_of_reads rfl toNat_word hgiven hs.generator.doipSourceAddress,
    fun hgiven => exact_of_reads rfl toNat_byte hgiven hs.generator.isotpPadding, by simp⟩

/-- A number in range is given by the integer that it is. -/
theorem gives_of_range {α : Type} {bits limit : Nat} (hlimit : twoPower bits = limit + 1)
    (ofNat : Nat → α) (default : α) {given : Option Datum}
    (hgiven : given = some (.scalar source (.integer n))) (hrange : 0 ≤ n ∧ n ≤ limit) :
    Gives given (reads? fun d => (Datum.toUnsigned bits d).map ofNat) default (ofNat n.toNat) := by
  subst hgiven
  show reads? _ _ = _
  rw [reads?_integer hlimit, if_pos hrange]

/-- Apart from one setting, a source says of the others what it says. -/
theorem without_of_ne {δ : Type} {given : String → String → Option δ} {key sec name : String}
    (h : sec ≠ "generator" ∨ name ≠ key) : without key given sec name = given sec name :=
  if_neg fun heq => h.elim (· heq.1) (· heq.2)

/-- Settings that are valid apart from one of the section `generator` have all that is known of the
    section `logging`. -/
theorem SettingsAre.logging_of_without {key : String} {s : Settings}
    (hs : SettingsAre (without key known) s) : LoggingAre (known "logging") s.logging := by
  have hsame : without key known "logging" = known "logging" :=
    funext fun name => without_of_ne (.inl (by decide))
  exact hsame ▸ hs.logging

/-- Beside valid settings, a number in range gives valid settings that differ only in the section
    `generator`. -/
theorem NumericSetting.exists_settingsAre {setting : NumericSetting} (h : setting ∈ numericSettings)
    {s : Settings} (hs : SettingsAre (without setting.key known) s)
    (hgiven : known "generator" setting.key = some (.scalar source (.integer n)))
    (hrange : 0 ≤ n ∧ n ≤ setting.limit) :
    ∃ generator, SettingsAre known { s with generator } := by
  have hlogging := hs.logging_of_without
  have hothers := hs.generator
  revert hgiven hrange hothers
  simp only [numericSettings, List.mem_cons, List.not_mem_nil, or_false] at h
  -- all fields but the one of the number stay as they are
  rcases h with rfl | rfl | rfl | rfl <;> intro hgiven hrange hothers <;>
    simp [generatorAre_iff, without] at hothers
  · have hnumber : Gives _ (reads? Datum.toWord) 18080 (.ofNat n.toNat) :=
      gives_of_range (by rfl) _ _ hgiven hrange
    refine ⟨{ s.generator with serverPort := .ofNat n.toNat }, hs.schema, hlogging, ?_⟩
    simp [generatorAre_iff, hothers, hnumber]
  · have hnumber : Gives _ (reads? Datum.toWord) 13400 (.ofNat n.toNat) :=
      gives_of_range (by rfl) _ _ hgiven hrange
    refine ⟨{ s.generator with doipPort := .ofNat n.toNat }, hs.schema, hlogging, ?_⟩
    simp [generatorAre_iff, hothers, hnumber]
  · have hnumber : Gives _ (reads? Datum.toWord) 0x0E80 (.ofNat n.toNat) :=
      gives_of_range (by rfl) _ _ hgiven hrange
    refine ⟨{ s.generator with doipSourceAddress := .ofNat n.toNat }, hs.schema, hlogging, ?_⟩
    simp [generatorAre_iff, hothers, hnumber]
  · have hnumber : Gives _ (reads? Datum.toByte) 0xCC (.ofNat n.toNat) :=
      gives_of_range (by rfl) _ _ hgiven hrange
    refine ⟨{ s.generator with isotpPadding := .ofNat n.toNat }, hs.schema, hlogging, ?_⟩
    simp [generatorAre_iff, hothers, hnumber]

/-- Without one setting, two sources give what they give together without it. -/
theorem given?_without (origin key : String) (ofVariables : String → String → Option String)
    (ofFile : String → String → Option Toml) :
    Settings.given? origin (without key ofVariables) (without key ofFile) =
      without key (Settings.given? origin ofVariables ofFile) := by
  funext sec name
  by_cases h : sec = "generator" ∧ name = key
  · simp [Settings.given?, without, h]
  · simp [Settings.given?, without, h]

/-- An integer that is given for a setting is known as that integer. -/
theorem NumberGiven.given? {ofVariables : String → String → Option String}
    {ofFile : String → String → Option Toml} {key : String}
    (h : NumberGiven ofVariables ofFile key n) (hn : fitsSigned 64 n) (origin : String) :
    ∃ source, Settings.given? origin ofVariables ofFile "generator" key =
      some (.scalar source (.integer n)) := by
  cases h with
  | inFile hvariable hfile => exact ⟨_, by rw [Settings.given?, hvariable, hfile]; rfl⟩
  | @inVariable text hvariable hfile htext =>
    refine ⟨some Variables.sourceName, ?_⟩
    rw [Settings.given?, hvariable, Option.map_some, Variables.datumOf,
      Variables.scalarOf_decimalText htext hn]
    rfl

/-- The settings of a file are no tables if they are valid apart from one, for which an integer is
    given. -/
theorem NumberGiven.ne_table {ofVariables : String → String → Option String}
    {ofFile : String → String → Option Toml} {key : String} {lower : SettingsLayer}
    (h : NumberGiven ofVariables ofFile key n) (hlower : Says (without key ofFile) .ofFile lower) :
    ∀ m ∈ settingNames, ∀ v, ofFile m.1 m.2 = some v → ∀ ms, v ≠ .table ms := by
  intro m hm v hv
  by_cases hkey : m.1 = "generator" ∧ m.2 = key
  · rw [hkey.1, hkey.2] at hv
    cases h with
    | inFile _ hfile =>
      obtain rfl := Option.some.inj (hfile.symm.trans hv)
      simp
    | inVariable _ hfile _ => simp [hfile] at hv
  · exact hlower.ne_table m hm v (by rwa [without, if_neg hkey])

/-- The layered reader takes the numbers in range as they are, and no others. -/
theorem NumericSetting.exact_loadFrom {setting : NumericSetting} (h : setting ∈ numericSettings)
    (hn : fitsSigned 64 n) {env : Environment} {t : FileTree} {path : Path}
    {members : List (String × Toml)} (hvalid : ValidApart env members setting.key)
    (hfile : t.Holds path members)
    (hgiven : NumberGiven (variableSetting? env) (fileSetting? members) setting.key n) :
    Exact setting n
      ((Settings.loadFrom env path : StateM FileTree (Except LoadFault Settings)).run t).1 := by
  obtain ⟨hplain, htexts, hplainFile, upper, lower, logFile, hupper, hlower, hlog⟩ := hvalid
  obtain ⟨origin, hrun⟩ := Settings.run_loadFrom_of_holds env hfile
  have hiff := fun s => Settings.ofSources_iff (s := s) hplain htexts hplainFile hfile.distinct
    (hgiven.ne_table hlower) origin
  obtain ⟨source, hnumber⟩ := hgiven.given? hn origin
  rw [hrun]
  simp only
  have hvalue : ∀ s, Settings.ofSources env (some (Datum.ofTomlMembers origin members)) = .ok s →
      (0 ≤ n ∧ n ≤ setting.limit) ∧ (setting.get s.generator : Int) = n := by
    intro s hs
    obtain ⟨s₀, hs₀, hexpand⟩ := (hiff s).1 hs
    rw [Settings.generator_of_expandLogFile hexpand]
    exact eq_of_settingsAre h hs₀ hnumber
  refine ⟨⟨fun ⟨s, hs⟩ => (hvalue s hs).1, fun hrange => ?_⟩, fun s hs => (hvalue s hs).2⟩
  have hothers := hupper.settingsAre_over hlower origin
  rw [given?_without] at hothers
  obtain ⟨generator, hs⟩ := exists_settingsAre h hothers hnumber hrange
  exact ⟨_, (hiff _).2 ⟨_, hs, Settings.expandLogFile_of_converts hlog⟩⟩

end

/-! ### Numbers in JSON -/

open Json (Tree TextDenotes)

/-- A number alone is accepted if it is in range, and is the number of its setting. -/
theorem exact_of_toOption {ε : Type} {setting : NumericSetting} {n : Int}
    {result : Except ε Settings} {s : Settings}
    (hresult : result.toOption = if 0 ≤ n ∧ n ≤ setting.limit then some s else none)
    (hvalue : 0 ≤ n ∧ n ≤ setting.limit → (setting.get s.generator : Int) = n) :
    Exact setting n result := by
  by_cases hrange : 0 ≤ n ∧ n ≤ setting.limit
  · rw [if_pos hrange, toOption_eq_some_iff] at hresult
    exact ⟨by simp [hresult, hrange], by simpa [hresult] using hvalue hrange⟩
  · rw [if_neg hrange, toOption_eq_none_iff] at hresult
    obtain ⟨e, rfl⟩ := hresult
    exact ⟨by simpa using hrange, by simp⟩

/-- The reader of JSON takes the numbers in range as they are, and no others. -/
theorem NumericSetting.exact_ofJson {setting : NumericSetting} (h : setting ∈ numericSettings)
    {n : Int} (hn : fitsSigned 64 n) {text : String}
    (htext : TextDenotes text (.object [("generator", .object [(setting.key,
      .number (.ofInt n))])])) :
    Exact setting n (Settings.ofJson text) := by
  have hdepth : (Tree.object [("generator", .object [(setting.key, .number (.ofInt n))])]).depth <
      Json.nestingLimit := by
    simp [Tree.depth, Tree.depthMembers, Json.nestingLimit]
  have hread := Json.Decoder.toOption_ofText Settings.decoder_reads htext hdepth
  -- what is read of a number alone, for any of the settings
  have hnumber : ∀ {α : Type} {limit : Nat} {ofNat : Nat → α}
      {set : α → GeneratorSettings → GeneratorSettings}, slotOf? jsonGeneratorSlots setting.key =
        some (.ofField setting.key (fun v => (v.asUnsigned? limit).map ofNat) set) →
      (Settings.ofJson text).toOption =
        if 0 ≤ n ∧ n ≤ limit then some { generator := set (ofNat n.toNat) {} } else none := by
    intro α limit ofNat set hslot
    have hwhole : slotOf? jsonSettingsSlots "generator" = some (.ofField "generator"
      (Tree.asRecord? jsonGeneratorSlots {}) fun generator s => { s with generator }) := rfl
    rw [asRecord?_singleton hwhole, asRecord?_singleton hslot] at hread
    refine hread.trans ?_
    simp only [Tree.asUnsigned?, Json.Literal.number?_ofInt hn, Option.bind_some, Json.upTo?]
    by_cases hrange : 0 ≤ n ∧ n ≤ limit
    · simp [hrange]
    · simp [hrange]
  simp only [numericSettings, List.mem_cons, List.not_mem_nil, or_false] at h
  rcases h with rfl | rfl | rfl | rfl
  · exact exact_of_toOption (hnumber rfl) (toNat_ofNat_toNat toNat_word)
  · exact exact_of_toOption (hnumber rfl) (toNat_ofNat_toNat toNat_word)
  · exact exact_of_toOption (hnumber rfl) (toNat_ofNat_toNat toNat_word)
  · exact exact_of_toOption (hnumber rfl) (toNat_ofNat_toNat toNat_byte)

/-! ### All readers -/

/-- A number is never altered.  Whether an integer of 64 bits is given for a setting in the file, in
    its variable or in JSON data, it is taken as it is if it is in range, and otherwise nothing is
    loaded. -/
theorem NumericSetting.taken_exactly {setting : NumericSetting} (h : setting ∈ numericSettings)
    {n : Int} (hn : fitsSigned 64 n) :
    (∀ (env : Environment) (t : FileTree) (path : Path) (members : List (String × Toml)),
      ValidApart env members setting.key → t.Holds path members →
        NumberGiven (variableSetting? env) (fileSetting? members) setting.key n →
          Exact setting n
            ((Settings.loadFrom env path : StateM FileTree (Except LoadFault Settings)).run t).1) ∧
      ∀ text, TextDenotes text (.object [("generator", .object [(setting.key,
        .number (.ofInt n))])]) → Exact setting n (Settings.ofJson text) :=
  ⟨fun _ _ _ _ hvalid hfile hgiven => exact_loadFrom h hn hvalid hfile hgiven,
    fun _ htext => exact_ofJson h hn htext⟩

/-- For one, a port that does not fit 16 bits is neither in range nor taken for another. -/
theorem NumericSetting.taken_exactly_port :
    let setting : NumericSetting := ⟨"server_port", 65535, fun g => g.serverPort.toNat⟩
    let text := "[generator]\nserver_port = 70000\n"
    let t : FileTree :=
      { current := [], entries := [([Text.encodeUtf8 "e.toml"], .file (Text.encodeUtf8 text))] }
    let data := "\x7b\"generator\":\x7b\"server_port\":70000\x7d\x7d"
    Exact setting 70000 ((Settings.loadFrom {} (.ofText "e.toml") :
      StateM FileTree (Except LoadFault Settings)).run t).1 ∧
        Exact setting 70000 (Settings.ofJson data) := by
  intro setting text t data
  have hexact :=
    @NumericSetting.taken_exactly setting (by simp [numericSettings, setting]) 70000 (by decide)
  constructor
  · have hdocument : Toml.PlainDocument text
        [.header false ["generator"], .assign ["server_port"] (.integer 70000)] := by
      have hheader := @Toml.PlainLine.header ["generator"] (by simp) (by decide)
      have hport := Toml.PlainLine.assign (show Toml.IsBareKey "server_port" by decide)
        (.integer (Toml.integerLiteral_decimalText 70000) (by decide))
      exact ⟨_, _, .cons hheader (.cons hport .nil), by decide, rfl⟩
    have hread : Toml.read? text =
        some [("generator", .table [("server_port", .integer 70000)])] := by
      rw [Toml.read?_plainDocument hdocument]
      rfl
    have htool : Environment.toolVariables {} = [] := rfl
    have hvalid : ValidApart {} [("generator", .table [("server_port", .integer 70000)])]
        setting.key :=
      ⟨plainVariables_of_nil htool, by simp [TextVariables, htool], plainFile_generator _, {}, {},
        none, by decide +kernel, by decide +kernel, rfl⟩
    exact hexact.1 {} t _ _ hvalid
      (FileTree.holds_of_content (by decide +kernel) (by decide +kernel) hread)
      (.inFile (by decide) rfl)
  · have hblank : Json.IsBlankText [] := by simp [Json.IsBlankText]
    have hl : Json.Literal.ofInt 70000 = ⟨false, ['7', '0', '0', '0', '0'], [], none⟩ := by decide
    have hnumber : Json.Denotes ['7', '0', '0', '0', '0'] (.number (.ofInt 70000)) := by
      rw [hl]
      exact .number (@Json.NumberText.mk false ['7', '0', '0', '0', '0'] [] [] [] none
        ⟨by simp, by simp⟩ (by simp) .none .none)
    have hkey : Json.StringText "server_port".toList "server_port".toList := .plain (by decide)
    have hsection : Json.StringText "generator".toList "generator".toList := .plain (by decide)
    have hmembers := Json.Denotes.object
      (.some hblank (.mk hkey hblank hblank hnumber) (.done hblank))
    have hdata := Json.Denotes.object
      (.some hblank (.mk hsection hblank hblank hmembers) (.done hblank))
    simp only [String.ofList_toList] at hdata
    exact hexact.2 data ⟨[], _, [], by decide, hblank, hblank, hdata⟩

end SovdConfig
