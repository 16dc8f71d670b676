import SovdConfig.Ecu.Document
import SovdConfig.Proofs.Layer.Override
import SovdConfig.Proofs.Settings.Range

namespace SovdConfig

/-!
# Settings that are texts

What the text of a variable becomes on its way into a setting that is a text itself.  Main
definitions:

* `Scalar.asText`, `Variables.takenText` — the text of a value, and of what a text is taken for;
* `TextSetting`, `textSettings` — the settings of the section `generator` that are texts.

Main statements:

* `Variables.takenText_eq_iff` — the texts that are taken as they are;
* `TextSetting.taken_as_read` — what a variable makes of such a setting, and what the file does.

The text of a variable is read as a truth value or a number first, if it looks like one, and written
again when the setting turns out to be a text.  A file has its texts in quotes, and they stay as
they are.
-/

/-! ### Texts of variables -/

/-- The text of a value without parts. -/
def Scalar.asText : Scalar → String
  | boolean b => if b then "true" else "false"
  | integer n => integerText n
  | double x => x.text .plain
  | text s => s

/-- A value without parts is read as its text. -/
theorem Datum.toText_scalar (origin : Option String) (value : Scalar) :
    toText (.scalar origin value) = .ok value.asText := by
  cases value <;> rfl

namespace Variables

/-- The text of what the text of a variable is taken for. -/
def takenText (text : String) : String := (scalarOf text).asText

/-- A text is taken for an integer only if that has 64 bits. -/
theorem fitsSigned_of_scalarOf {text : String} {n : Int} (h : scalarOf text = .integer n) :
    fitsSigned 64 n := by
  simp only [scalarOf] at h
  split at h
  · cases h
  · split at h
    · cases h
    · split at h
      · next m hm =>
        obtain rfl : m = n := by simpa using h
        exact (Option.filter_eq_some_iff.1 hm).2
      · split at h <;> cases h

/-- The texts that are taken as they are: the two truth values in lower case, integers of 64 bits
    without leading zeros or a plus sign, doubles as they are written, and all that is neither a
    truth value nor a number. -/
theorem takenText_eq_iff (text : String) : takenText text = text ↔
    text = "true" ∨ text = "false" ∨ (∃ n, fitsSigned 64 n ∧ text = integerText n) ∨
      (∃ x, scalarOf text = .double x ∧ text = x.text .plain) ∨ scalarOf text = .text text := by
  constructor
  · intro h
    rw [takenText] at h
    rcases hscalar : scalarOf text with (- | -) | n | x | s
    · rw [hscalar] at h
      exact .inr (.inl h.symm)
    · rw [hscalar] at h
      exact .inl h.symm
    · rw [hscalar] at h
      exact .inr (.inr (.inl ⟨n, fitsSigned_of_scalarOf hscalar, h.symm⟩))
    · rw [hscalar] at h
      exact .inr (.inr (.inr (.inl ⟨x, rfl, h.symm⟩)))
    · rw [hscalar] at h
      exact .inr (.inr (.inr (.inr (congrArg Scalar.text h))))
  · rintro (rfl | rfl | ⟨n, hn, rfl⟩ | ⟨x, hx, htext⟩ | htext)
    · decide
    · decide
    · rw [takenText, scalarOf_decimalText (decimalText_integerText n) hn]
      rfl
    · rw [takenText, hx]
      exact htext.symm
    · rw [takenText, htext]
      rfl

end Variables

open Variables (datumOf takenText)

/-! ### The settings -/

/-- A setting of the section `generator` that is a text: its key, its field, and the line that shows
    it in the configuration of a unit. -/
structure TextSetting where
  key : String
  get : GeneratorSettings → String
  line : TransportKind → String → String

/-- The key under which a transport of a kind has its interface. -/
def TransportKind.interfaceKey : TransportKind → String
  | isotp => "interface"
  | doip => "host"

/-- The header of a unit's transport is followed by the line that shows the interface. -/
theorem Ecu.interfaceLine_below_header (identity : Identity) (interface : String)
    (kind : TransportKind) (s : GeneratorSettings) (written : Timestamp) :
    [headerLine ("ecu." ++ identity.id ++ ".transport." ++ kind.name),
        assignLine kind.interfaceKey (inQuotes interface)] <:+:
      (ofKind identity interface (some kind) s).documentLines s written := by
  let ecu : Ecu := ofKind identity interface (some kind) s
  have hstart : [headerLine ("ecu." ++ identity.id ++ ".transport." ++ kind.name),
      assignLine kind.interfaceKey (inQuotes interface)] <+: ecu.transportLines := by
    cases kind <;> exact ⟨_, rfl⟩
  let before : List String := ["# SOVD ECU Configuration", stampLine written, ""] ++
    serverLines s ++ [""] ++ ecu.identityLines ++ [""]
  let after : List String := [""] ++ ecu.hintLines ++ [""] ++ storeLines s
  have hlines : before ++ ecu.transportLines ++ after = ecu.documentLines s written := by
    simp [before, after, documentLines, bodyLines]
  exact hstart.isInfix.trans ⟨before, after, hlines⟩

/-- The settings that are texts. -/
def textSettings : List TextSetting :=
  [⟨"server_host", (·.serverHost), fun _ text => assignLine "host" (inQuotes text)⟩,
   ⟨"interface", (·.interface), fun kind text => assignLine kind.interfaceKey (inQuotes text)⟩,
   ⟨"did_store_path", (·.didStorePath), fun _ text => assignLine "store_path" (inQuotes text)⟩]

namespace TextSetting

variable {setting : TextSetting} {known : String → String → Option Datum} {source : Option String}
  {value : Scalar}

/-- The texts are settings. -/
theorem mem_settingNames (h : setting ∈ textSettings) :
    ("generator", setting.key) ∈ settingNames := by
  revert setting
  decide

/-- The configuration of a unit that is reached by the interface of the settings shows all texts as
    they are. -/
theorem line_mem_documentLines (h : setting ∈ textSettings) (s : GeneratorSettings)
    (identity : Identity) (kind : TransportKind) (written : Timestamp) :
    setting.line kind (setting.get s) ∈
      (Ecu.ofKind identity s.interface (some kind) s).documentLines s written := by
  simp only [textSettings, List.mem_cons, List.not_mem_nil, or_false] at h
  rcases h with rfl | rfl | rfl
  · simp [Ecu.documentLines, Ecu.bodyLines, serverLines]
  · exact (Ecu.interfaceLine_below_header identity s.interface kind s written).subset (by simp)
  · simp [Ecu.documentLines, Ecu.bodyLines, storeLines]

/-- Settings have the text of what is known. -/
theorem get_of_generatorAre (h : setting ∈ textSettings) {known : String → Option Datum}
    {s : GeneratorSettings} (hs : GeneratorAre known s)
    (hgiven : known setting.key = some (.scalar source value)) : setting.get s = value.asText := by
  have htext : ∀ {default a : String}, Gives (some (.scalar source value)) (reads? Datum.toText)
      default a → a = value.asText := by
    intro default a hread
    have hsome : reads? Datum.toText (.scalar source value) = some a := hread
    rw [reads?, Datum.toText_scalar] at hsome
    exact (Option.some.inj hsome).symm
  simp only [textSettings, List.mem_cons, List.not_mem_nil, or_false] at h
  rcases h with rfl | rfl | rfl
  · exact htext (hgiven ▸ hs.serverHost)
  · exact htext (hgiven ▸ hs.interface)
  · exact htext (hgiven ▸ hs.didStorePath)

/-- Beside valid settings, any value without parts gives valid settings that differ only in the
    section `generator`. -/
theorem exists_settingsAre (h : setting ∈ textSettings) {s : Settings}
    (hs : SettingsAre (without setting.key known) s)
    (hgiven : known "generator" setting.key = some (.scalar source value)) :
    ∃ generator, SettingsAre known { s with generator } := by
  have hlogging := hs.logging_of_without
  have htext : ∀ default, Gives (some (.scalar source value)) (reads? Datum.toText) default
      value.asText := by
    intro default
    show reads? Datum.toText (.scalar source value) = some value.asText
    rw [reads?, Datum.toText_scalar]
    rfl
  have hothers := hs.generator
  revert hgiven hothers
  simp only [textSettings, List.mem_cons, List.not_mem_nil, or_false] at h
  -- all fields but the one of the text stay as they are
  rcases h with rfl | rfl | rfl <;> intro hgiven hothers <;>
    simp [generatorAre_iff, without] at hothers
  · refine ⟨{ s.generator with serverHost := value.asText }, hs.schema, hlogging, ?_⟩
    simp [generatorAre_iff, hothers, hgiven, htext]
  · refine ⟨{ s.generator with interface := value.asText }, hs.schema, hlogging, ?_⟩
    simp [generatorAre_iff, hothers, hgiven, htext]
  · refine ⟨{ s.generator with didStorePath := value.asText }, hs.schema, hlogging, ?_⟩
    simp [generatorAre_iff, hothers, hgiven, htext]

end TextSetting

/-! ### Loading -/

namespace Settings

variable {env : Environment} {s : Settings}

/-- Settings that follow from sources are read from what those say, but for the path of the log
    file. -/
theorem exists_of_ofSources {file? : Option (List (String × Datum))}
    (h : ofSources env file? = .ok s) : ∃ overrides s₀, Variables.source env = .ok overrides ∧
      Datum.toSettings (Datum.addSource (Datum.addSource knownDefaults (file?.getD [])) overrides) =
        .ok s₀ ∧ s.generator = s₀.generator := by
  obtain ⟨overrides, hsource, hread⟩ := exists_of_bind_eq_ok h
  obtain ⟨s₀, hs₀, hexpand⟩ := exists_of_bind_eq_ok hread
  refine ⟨overrides, s₀, ?_, ?_, generator_of_expandLogFile hexpand⟩
  · rwa [← toOption_eq_some_iff, toOption_mapError, toOption_eq_some_iff] at hsource
  · rwa [← toOption_eq_some_iff, toOption_mapError, toOption_eq_some_iff] at hs₀

/-- Settings that are loaded follow from sources. -/
theorem exists_of_loadFrom {t t' : FileTree} {path : Path}
    (h : (loadFrom env path : StateM FileTree (Except LoadFault Settings)).run t = (.ok s, t')) :
    ∃ file?, ofSources env file? = .ok s := by
  obtain ⟨origin, hrun⟩ := run_loadFrom env t path
  rw [hrun] at h
  obtain ⟨hload, -⟩ := Prod.mk.inj h
  rcases hcontent : t.settingsContent? path with - | content
  · rw [hcontent] at hload
    exact ⟨none, hload⟩
  · rw [hcontent] at hload
    obtain ⟨file, -, hfile⟩ := exists_of_bind_eq_ok hload
    exact ⟨some file, hfile⟩

/-- The defaults are in order. -/
theorem orderly_knownDefaults : knownDefaults.Orderly "generator" := by
  rw [knownDefaults_eq]
  exact ⟨⟨_, _, rfl⟩, by decide, by decide⟩

end Settings

namespace TextSetting

variable {setting : TextSetting} {env : Environment} {t t' : FileTree} {path : Path} {s : Settings}
  {members : List (String × Toml)} {text : String}

/-- Settings that are loaded have what the variable is taken for, whatever is in the file. -/
theorem get_of_variable (h : setting ∈ textSettings)
    (hgiven : env.GivesOnly "generator" setting.key text)
    (hload : (Settings.loadFrom env path : StateM FileTree (Except LoadFault Settings)).run t =
      (.ok s, t')) : setting.get s.generator = takenText text := by
  obtain ⟨file?, hsources⟩ := Settings.exists_of_loadFrom hload
  obtain ⟨overrides, s₀, hsource, hread, hgenerator⟩ := Settings.exists_of_ofSources hsources
  have hknown := Datum.setting?_addSource_variables hsource (.refl _) (mem_settingNames h) hgiven
    (Datum.addSource Settings.knownDefaults (file?.getD []))
  have horderly := (Settings.orderly_knownDefaults.addSource (file?.getD [])).addSource overrides
  have hs₀ := Datum.generatorAre_of_toSettings horderly hread hknown
  rw [hgenerator]
  exact get_of_generatorAre h hs₀ hknown

/-- They have what is in the file, if no variable is about the setting. -/
theorem get_of_file (h : setting ∈ textSettings)
    (hothers : ∀ v ∈ env.toolVariables,
      Hop.PassBy "generator" setting.key (Hop.ofKey (Variables.keyOf v.1)))
    (hfile : t.Holds path members) (hplain : PlainFile members)
    (hgiven : fileSetting? members "generator" setting.key = some (.string text))
    (hload : (Settings.loadFrom env path : StateM FileTree (Except LoadFault Settings)).run t =
      (.ok s, t')) : setting.get s.generator = text := by
  obtain ⟨origin, hrun⟩ := Settings.run_loadFrom_of_holds env hfile
  rw [hrun] at hload
  obtain ⟨overrides, s₀, hsource, hread, hgenerator⟩ :=
    Settings.exists_of_ofSources (Prod.mk.inj hload).1
  rw [Option.getD_some] at hread
  have hknown := (Datum.addSource_file Settings.sectioned_knownDefaults hplain hfile.distinct
    origin).2 "generator" (by decide) setting.key (by simp [hgiven])
  rw [hgiven] at hknown
  -- the variables come after the file, but none of them is about the setting
  have hpast : ∀ m ∈ overrides, Hop.PassBy "generator" setting.key (Hop.ofKey m.1) := by
    intro m hm
    obtain ⟨v, hv, rfl⟩ := Variables.exists_variable_of_mem hsource hm
    exact hothers v hv
  have hkept := (Datum.setting?_addSource_of_passBy hpast _).trans hknown
  have horderly := (Settings.orderly_knownDefaults.addSource
    (Datum.ofTomlMembers origin members)).addSource overrides
  have hs₀ := Datum.generatorAre_of_toSettings horderly hread hkept
  rw [hgenerator]
  exact get_of_generatorAre h hs₀ hkept

/-- If the sources are valid apart from the setting, settings are loaded, whatever the file has for
    it. -/
theorem exists_load_of_variable (h : setting ∈ textSettings)
    (hvalid : ValidApart env members setting.key) (hfile : t.Holds path members)
    (hgiven : variableSetting? env "generator" setting.key = some text) :
    ∃ s, (Settings.loadFrom env path : StateM FileTree (Except LoadFault Settings)).run t =
      (.ok s, t) := by
  obtain ⟨hplain, htexts, hplainFile, upper, lower, logFile, hupper, hlower, hlog⟩ := hvalid
  obtain ⟨origin, hrun⟩ := Settings.run_loadFrom_of_holds env hfile
  -- what the file has for the setting itself does not matter
  have hvalues : ∀ n ∈ settingNames, variableSetting? env n.1 n.2 = none →
      ∀ v, fileSetting? members n.1 n.2 = some v → ∀ ms, v ≠ .table ms := by
    intro n hn hnone v hv
    refine hlower.ne_table n hn v ?_
    rw [without, if_neg, hv]
    rintro ⟨hsec, hkey⟩
    rw [hsec, hkey, hgiven] at hnone
    cases hnone
  have hknown : Settings.given? origin (variableSetting? env) (fileSetting? members) "generator"
      setting.key = some (datumOf text) := by
    rw [Settings.given?, hgiven]
    rfl
  have hapart := hupper.settingsAre_over hlower origin
  rw [given?_without] at hapart
  obtain ⟨generator, hs⟩ := exists_settingsAre h hapart hknown
  refine ⟨{ { upper.over lower with generator } with logging.file := logFile }, ?_⟩
  rw [hrun, (Settings.ofSources_iff_of_free hplain hplainFile hfile.distinct hvalues htexts
    origin).2 ⟨_, hs, Settings.expandLogFile_of_converts hlog⟩]

/-- What the text of a variable makes of a setting that is a text.  First, if no other variable is
    about the setting, settings that are loaded have the text of what the variable is taken for,
    whatever is in the file, and the configuration of a unit shows that text as it is.  Second, such
    settings are loaded if the sources are valid apart from the setting, for which the file may say
    anything.  Third, the text that a file gives stays as it is.  Fourth, that of a variable does
    for the texts that are listed, and for no others. -/
theorem taken_as_read (h : setting ∈ textSettings) (text : String) :
    (∀ (env : Environment) (t t' : FileTree) (path : Path) (s : Settings),
      env.GivesOnly "generator" setting.key text →
      (Settings.loadFrom env path : StateM FileTree (Except LoadFault Settings)).run t =
        (.ok s, t') →
        setting.get s.generator = takenText text ∧
        ∀ (identity : Identity) (kind : TransportKind) (written : Timestamp),
          setting.line kind (takenText text) ∈
            (Ecu.ofKind identity s.generator.interface (some kind) s.generator).documentLines
              s.generator written) ∧
    (∀ (env : Environment) (t : FileTree) (path : Path) (members : List (String × Toml)),
      ValidApart env members setting.key → t.Holds path members →
      variableSetting? env "generator" setting.key = some text →
        ∃ s, (Settings.loadFrom env path : StateM FileTree (Except LoadFault Settings)).run t =
          (.ok s, t) ∧ setting.get s.generator = takenText text) ∧
    (∀ (env : Environment) (t t' : FileTree) (path : Path) (members : List (String × Toml))
        (s : Settings),
      (∀ v ∈ env.toolVariables,
        Hop.PassBy "generator" setting.key (Hop.ofKey (Variables.keyOf v.1))) →
      t.Holds path members → PlainFile members →
      fileSetting? members "generator" setting.key = some (.string text) →
      (Settings.loadFrom env path : StateM FileTree (Except LoadFault Settings)).run t =
        (.ok s, t') → setting.get s.generator = text) ∧
    (takenText text = text ↔
      text = "true" ∨ text = "false" ∨ (∃ n, fitsSigned 64 n ∧ text = integerText n) ∨
        (∃ x, Variables.scalarOf text = .double x ∧ text = x.text .plain) ∨
        Variables.scalarOf text = .text text) := by
  refine ⟨fun env t t' path s hgiven hload => ?_, fun env t path members hvalid hfile hgiven => ?_,
    fun env t t' path members s hothers hfile hplain hgiven hload =>
      get_of_file h hothers hfile hplain hgiven hload, Variables.takenText_eq_iff text⟩
  · have hget := get_of_variable h hgiven hload
    refine ⟨hget, fun identity kind written => ?_⟩
    have hline := line_mem_documentLines h s.generator identity kind written
    rwa [hget] at hline
  · obtain ⟨s, hload⟩ := exists_load_of_variable h hvalid hfile hgiven
    have honly := hvalid.plainVariables.givesOnly (mem_settingNames h) hgiven
    exact ⟨s, hload, get_of_variable h honly hload⟩

/-- For one, the name of an interface in a variable, over another one in the file. -/
theorem taken_as_read_interface :
    let env : Environment :=
      { bindings := [(Text.encodeUtf8 "ECUCFG__GENERATOR__INTERFACE", Text.encodeUtf8 "can0")] }
    let content := "[generator]\ninterface = \"can1\"\n"
    let t : FileTree := ⟨[], [([Text.encodeUtf8 "e.toml"], .file (Text.encodeUtf8 content))]⟩
    ∃ s, (Settings.loadFrom env (.ofText "e.toml") :
        StateM FileTree (Except LoadFault Settings)).run t = (.ok s, t) ∧
      s.generator.interface = "can0" := by
  intro env content t
  have hsetting : ⟨"interface", (·.interface),
      fun kind text => assignLine kind.interfaceKey (inQuotes text)⟩ ∈ textSettings := by
    simp [textSettings]
  have hvariables : env.toolVariables =
      [(Variables.nameOf "generator" "interface", Text.encodeUtf8 "can0")] := by decide +kernel
  have hvalid : ValidApart env [("generator", .table [("interface", .string "can1")])]
      "interface" :=
    ⟨plainVariables_of_setting (n := ("generator", "interface")) (by decide) hvariables,
      by rw [TextVariables, hvariables]; decide +kernel, plainFile_generator _, {}, {}, none,
      by decide +kernel, by decide +kernel, rfl⟩
  have hholds : t.Holds (.ofText "e.toml")
      [("generator", .table [("interface", .string "can1")])] := by
    have hheader := @Toml.PlainLine.header ["generator"] (by simp) (by decide)
    have hinterface := Toml.PlainLine.assign (show Toml.IsBareKey "interface" by decide)
      (.string (show Toml.IsUnescapedText "can1" by decide))
    have hdocument : Toml.PlainDocument content
        [.header false ["generator"], .assign ["interface"] (.string "can1")] :=
      ⟨_, _, .cons hheader (.cons hinterface .nil), by decide, rfl⟩
    have hread : Toml.read? content =
        some [("generator", .table [("interface", .string "can1")])] := by
      rw [Toml.read?_plainDocument hdocument]
      rfl
    exact FileTree.holds_of_content (by decide +kernel) (by decide +kernel) hread
  have htaken : takenText "can0" = "can0" := by decide +kernel
  obtain ⟨s, hload, hget⟩ := (taken_as_read hsetting "can0").2.1 env t (.ofText "e.toml") _ hvalid
    hholds (by decide +kernel)
  exact ⟨s, hload, hget.trans htaken⟩

/-- The name of an interface that looks like a number becomes that number. -/
theorem taken_as_number :
    let env : Environment :=
      { bindings := [(Text.encodeUtf8 "ECUCFG__GENERATOR__INTERFACE", Text.encodeUtf8 "1e3")] }
    let t : FileTree := ⟨[], [([Text.encodeUtf8 "e.toml"], .file [])]⟩
    variableSetting? env "generator" "interface" = some "1e3" ∧
      ((Settings.loadFrom env (.ofText "e.toml") :
        StateM FileTree (Except LoadFault Settings)).run t).1.toOption =
          some { generator := { interface := "1000" } } := by
  exact ⟨by decide +kernel, by decide +kernel⟩

end TextSetting

end SovdConfig
