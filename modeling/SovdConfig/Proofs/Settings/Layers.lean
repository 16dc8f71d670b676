import SovdConfig.Proofs.Settings.Sources
import SovdConfig.Proofs.Toml.Literal
import SovdConfig.Proofs.Toml.Reading

namespace SovdConfig

/-!
# Settings in layers

Main definitions:

* `SettingsLayer` — what one source says of the nine settings;
* `SettingsLayer.over` — the settings of one layer over another over the defaults;
* `Says` — whether a source says what is in a layer, its values being converted to the types of the
  settings.

Main statement: `Settings.loadFrom_layers`, the settings that are loaded are those of the variables
over those of the file over the defaults, setting by setting.
-/

/-- What one source says of the settings; it may leave out any of them. -/
structure SettingsLayer where
  level : Option LogLevel := none
  file : Option String := none
  serverHost : Option String := none
  serverPort : Option UInt16 := none
  interface : Option String := none
  isotpPadding : Option UInt8 := none
  doipPort : Option UInt16 := none
  doipSourceAddress : Option UInt16 := none
  didStorePath : Option String := none
deriving DecidableEq, Repr

/-- The settings of one layer over another: each is that of the upper layer, or else that of the
    lower one, or else the default. -/
def SettingsLayer.over (upper lower : SettingsLayer) : Settings where
  logging :=
    { level := (upper.level <|> lower.level).getD ({} : LoggingSettings).level
      file := upper.file <|> lower.file }
  generator :=
    let default : GeneratorSettings := {}
    { serverHost := (upper.serverHost <|> lower.serverHost).getD default.serverHost
      serverPort := (upper.serverPort <|> lower.serverPort).getD default.serverPort
      interface := (upper.interface <|> lower.interface).getD default.interface
      isotpPadding := (upper.isotpPadding <|> lower.isotpPadding).getD default.isotpPadding
      doipPort := (upper.doipPort <|> lower.doipPort).getD default.doipPort
      doipSourceAddress :=
        (upper.doipSourceAddress <|> lower.doipSourceAddress).getD default.doipSourceAddress
      didStorePath := (upper.didStorePath <|> lower.didStorePath).getD default.didStorePath }

/-- How the values of a source are converted to the types of the settings. -/
structure Conversions (δ : Type) where
  level : δ → Option LogLevel
  text : δ → Option String
  word : δ → Option UInt16
  byte : δ → Option UInt8

namespace Conversions

/-- An integer of a file within a bound, as a number. -/
def unsigned {α : Type} (limit : Nat) (ofNat : Nat → α) : Toml → Option α
  | .integer n => if 0 ≤ n ∧ n ≤ limit then some (ofNat n.toNat) else none
  | _ => none

/-- The values of a file: names of levels, texts, and integers within the bounds. -/
def ofFile : Conversions Toml where
  level
    | .string name => LogLevel.ofName? name
    | _ => none
  text
    | .string s => some s
    | _ => none
  word := unsigned 65535 UInt16.ofNat
  byte := unsigned 255 UInt8.ofNat

/-- The texts of variables, each taken for what it looks like. -/
def ofVariable : Conversions String where
  level text := reads? Datum.toLevel (Variables.datumOf text)
  text text := reads? Datum.toText (Variables.datumOf text)
  word text := reads? Datum.toWord (Variables.datumOf text)
  byte text := reads? Datum.toByte (Variables.datumOf text)

end Conversions

/-- Whether a value is there or not, and is converted to a given one. -/
def Converts {δ α : Type} (part : Option δ) (read : δ → Option α) (a? : Option α) : Prop :=
  part.map read = a?.map some

instance {δ α : Type} [DecidableEq α] (part : Option δ) (read : δ → Option α) (a? : Option α) :
    Decidable (Converts part read a?) :=
  inferInstanceAs (Decidable (part.map read = a?.map some))

/-- Whether a source says of each setting what is in a layer. -/
@[mk_iff]
structure Says {δ : Type} (given : String → String → Option δ) (as : Conversions δ)
    (l : SettingsLayer) : Prop where
  level : Converts (given "logging" "level") as.level l.level
  file : Converts (given "logging" "file") as.text l.file
  serverHost : Converts (given "generator" "server_host") as.text l.serverHost
  serverPort : Converts (given "generator" "server_port") as.word l.serverPort
  interface : Converts (given "generator" "interface") as.text l.interface
  isotpPadding : Converts (given "generator" "isotp_padding") as.byte l.isotpPadding
  doipPort : Converts (given "generator" "doip_port") as.word l.doipPort
  doipSourceAddress :
    Converts (given "generator" "doip_source_address") as.word l.doipSourceAddress
  didStorePath : Converts (given "generator" "did_store_path") as.text l.didStorePath

instance {δ : Type} (given : String → String → Option δ) (as : Conversions δ) (l : SettingsLayer) :
    Decidable (Says given as l) :=
  decidable_of_iff _ (says_iff given as l).symm

/-! ### What the values of a file are read as -/

section

variable {origin : String} {v : Toml}

open Datum (ofToml toLevel toText toWord toByte)

/-- The name of a level is read as that level. -/
theorem reads?_ofFile_level {a : LogLevel} (h : Conversions.ofFile.level v = some a) :
    reads? toLevel (ofToml origin v) = some a := by
  cases v with
  | string name =>
    have hname : LogLevel.ofName? name = some a := h
    simp [reads?, ofToml, toLevel, Datum.levelOf, hname]
  | _ => simp [Conversions.ofFile] at h

/-- A text is read as it is. -/
theorem reads?_ofFile_text {a : String} (h : Conversions.ofFile.text v = some a) :
    reads? toText (ofToml origin v) = some a := by
  cases v with
  | string s => exact h
  | _ => simp [Conversions.ofFile] at h

/-- An integer is read as the number of so many bits that it is, if it is one. -/
theorem reads?_integer {α : Type} {bits limit : Nat} (hlimit : twoPower bits = limit + 1)
    (ofNat : Nat → α) (source : Option String) (n : Int) :
    reads? (fun d => (Datum.toUnsigned bits d).map ofNat) (.scalar source (.integer n)) =
      if 0 ≤ n ∧ n ≤ limit then some (ofNat n.toNat) else none := by
  by_cases hn : 0 ≤ n
  · have hfits : fitsUnsigned bits n.toNat = true ↔ n ≤ limit := by
      rw [fitsUnsigned, decide_eq_true_iff]
      omega
    by_cases hle : n ≤ limit <;>
      simp [reads?, Datum.toUnsigned, Datum.toNatural, hn, hfits, hle, Except.map]
  · simp [reads?, Datum.toUnsigned, Datum.toNatural, hn, Except.map]

/-- An integer within the bound is read as it is. -/
theorem reads?_ofFile_unsigned {α : Type} {bits limit : Nat} (hlimit : twoPower bits = limit + 1)
    (ofNat : Nat → α) {a : α} (h : Conversions.unsigned limit ofNat v = some a) :
    reads? (fun d => (Datum.toUnsigned bits d).map ofNat) (ofToml origin v) = some a := by
  cases v with
  | integer n => rwa [ofToml, reads?_integer hlimit]
  | _ => simp [Conversions.unsigned] at h

end

/-! ### One setting -/

section

variable {δ α : Type}

/-- What a source does not give is not in its layer. -/
theorem Converts.of_none {read : δ → Option α} {a? : Option α} (h : Converts none read a?) :
    a? = none := by
  cases a? with
  | none => rfl
  | some a => simp [Converts] at h

/-- What a source gives is converted to what is in its layer. -/
theorem Converts.of_some {d : δ} {read : δ → Option α} {a? : Option α}
    (h : Converts (some d) read a?) : ∃ a, read d = some a ∧ a? = some a := by
  cases a? with
  | none => simp [Converts] at h
  | some a => exact ⟨a, by simpa [Converts] using h, rfl⟩

/-- What is converted can be passed through a function. -/
theorem Converts.map {β : Type} {part : Option δ} {read : δ → Option α} {a? : Option α}
    (h : Converts part read a?) (f : α → β) :
    Converts part (fun d => (read d).map f) (a?.map f) := by
  cases part with
  | none => rw [h.of_none]; rfl
  | some d =>
    obtain ⟨a, ha, rfl⟩ := h.of_some
    simp [Converts, ha]

/-- A setting is that of its variable, or else that of the file, or else the default. -/
theorem gives_layers {origin : String} {var? : Option String} {file? : Option Toml}
    {ofVariable : String → Option α} {ofFile : Toml → Option α} {upper lower : Option α}
    (hupper : Converts var? ofVariable upper) (hlower : Converts file? ofFile lower)
    {read : Datum → Option α}
    (hread : ∀ text a, ofVariable text = some a → read (Variables.datumOf text) = some a)
    (hread' : ∀ v a, ofFile v = some a → read (.ofToml origin v) = some a) (default : α) :
    Gives (var?.map Variables.datumOf <|> file?.map (.ofToml origin)) read default
      ((upper <|> lower).getD default) := by
  -- a variable counts where there is one, whatever the file says; then the file; then the default
  cases var? with
  | some text =>
    obtain ⟨a, ha, rfl⟩ := hupper.of_some
    exact hread text a ha
  | none =>
    obtain rfl := hupper.of_none
    cases file? with
    | some v =>
      obtain ⟨a, ha, rfl⟩ := hlower.of_some
      exact hread' v a ha
    | none =>
      obtain rfl := hlower.of_none
      rfl

/-- A value that is converted is no table. -/
theorem Converts.ne_table {file? : Option Toml} {ofFile : Toml → Option α} {a? : Option α}
    (h : Converts file? ofFile a?) (htable : ∀ ms, ofFile (.table ms) = none) :
    ∀ v, file? = some v → ∀ ms, v ≠ .table ms := by
  rintro _ rfl ms rfl
  obtain ⟨a, ha, -⟩ := h.of_some
  simp [htable] at ha

end

/-! ### All settings -/

/-- None of the settings of a file is a table. -/
theorem Says.ne_table {ofFile : String → String → Option Toml} {l : SettingsLayer}
    (h : Says ofFile .ofFile l) :
    ∀ n ∈ settingNames, ∀ v, ofFile n.1 n.2 = some v → ∀ ms, v ≠ .table ms := by
  simp only [settingNames, List.forall_mem_cons]
  exact ⟨h.level.ne_table fun _ => rfl, h.file.ne_table fun _ => rfl,
    h.serverHost.ne_table fun _ => rfl, h.serverPort.ne_table fun _ => rfl,
    h.interface.ne_table fun _ => rfl, h.isotpPadding.ne_table fun _ => rfl,
    h.doipPort.ne_table fun _ => rfl, h.doipSourceAddress.ne_table fun _ => rfl,
    h.didStorePath.ne_table fun _ => rfl, by simp⟩

/-- A text that may be missing is read as a text. -/
theorem reads?_toOption_toText {d : Datum} {a? : Option String}
    (h : (reads? Datum.toText d).map some = some a?) :
    reads? (Datum.toOption Datum.toText) d = some a? := by
  cases d with
  | nothing => simp [reads?, Datum.toText, Datum.otherKind] at h
  | _ => simpa only [reads?, Datum.toOption, toOption_map] using h

/-- What two layers say together is what is given for the settings of one over the other. -/
theorem Says.settingsAre_over {ofVariables : String → String → Option String}
    {ofFile : String → String → Option Toml} {upper lower : SettingsLayer}
    (hupper : Says ofVariables .ofVariable upper) (hlower : Says ofFile .ofFile lower)
    (origin : String) :
    SettingsAre (Settings.given? origin ofVariables ofFile) (upper.over lower) where
  schema := rfl
  logging :=
    { level := gives_layers hupper.level hlower.level (fun _ _ h => h)
        (fun _ _ h => reads?_ofFile_level h) _
      file := by
        have hfile : Gives (Settings.given? origin ofVariables ofFile "logging" "file") _ none
            ((upper.file.map some <|> lower.file.map some).getD none) :=
          gives_layers (hupper.file.map some) (hlower.file.map some)
            (fun _ _ h => reads?_toOption_toText h)
            (fun v a? h => by
              obtain ⟨a, ha, rfl⟩ := Option.map_eq_some_iff.1 h
              exact reads?_toOption_toText (by rw [reads?_ofFile_text ha]; rfl)) none
        have hover : ((upper.file.map some <|> lower.file.map some).getD none) =
            (upper.file <|> lower.file) := by
          cases upper.file <;> cases lower.file <;> rfl
        rwa [hover] at hfile }
  generator :=
    { serverHost := gives_layers hupper.serverHost hlower.serverHost (fun _ _ h => h)
        (fun _ _ h => reads?_ofFile_text h) _
      serverPort := gives_layers hupper.serverPort hlower.serverPort (fun _ _ h => h)
        (fun _ _ h => reads?_ofFile_unsigned rfl _ h) _
      interface := gives_layers hupper.interface hlower.interface (fun _ _ h => h)
        (fun _ _ h => reads?_ofFile_text h) _
      isotpPadding := gives_layers hupper.isotpPadding hlower.isotpPadding (fun _ _ h => h)
        (fun _ _ h => reads?_ofFile_unsigned rfl _ h) _
      doipPort := gives_layers hupper.doipPort hlower.doipPort (fun _ _ h => h)
        (fun _ _ h => reads?_ofFile_unsigned rfl _ h) _
      doipSourceAddress := gives_layers hupper.doipSourceAddress hlower.doipSourceAddress
        (fun _ _ h => h) (fun _ _ h => reads?_ofFile_unsigned rfl _ h) _
      didStorePath := gives_layers hupper.didStorePath hlower.didStorePath (fun _ _ h => h)
        (fun _ _ h => reads?_ofFile_text h) _ }

namespace Settings

/-- The path of the log file, if there is one, is expanded. -/
theorem expandLogFile_of_converts {env : Environment} {s : Settings} {logFile : Option String}
    (h : Converts s.logging.file (fun file => (Expansion.expandText env file).toOption) logFile) :
    expandLogFile env s = .ok { s with logging.file := logFile } := by
  obtain ⟨schema, ⟨level, file⟩, generator⟩ := s
  cases file with
  | none =>
    obtain rfl := h.of_none
    rfl
  | some file =>
    obtain ⟨expanded, hexpanded, rfl⟩ := h.of_some
    rw [toOption_eq_some_iff] at hexpanded
    simp only [expandLogFile, hexpanded]

/-- The settings that are loaded are, one by one, what the setting's variable says, or else what the
    file says, or else the default; the path of the log file is expanded, and no file changes. -/
theorem loadFrom_layers {env : Environment} {t : FileTree} {path : Path}
    {members : List (String × Toml)} {upper lower : SettingsLayer} {logFile : Option String}
    (henv : PlainVariables env) (htexts : TextVariables env) (hfile : t.Holds path members)
    (hplain : PlainFile members) (hupper : Says (variableSetting? env) .ofVariable upper)
    (hlower : Says (fileSetting? members) .ofFile lower)
    (hlog : Converts (upper.over lower).logging.file
      (fun file => (Expansion.expandText env file).toOption) logFile) :
    (loadFrom env path : StateM FileTree (Except LoadFault Settings)).run t =
      (.ok { upper.over lower with logging.file := logFile }, t) := by
  obtain ⟨origin, hiff⟩ := loadFrom_iff henv htexts hfile hplain hlower.ne_table
  exact (hiff _).2 ⟨_, hupper.settingsAre_over hlower origin, expandLogFile_of_converts hlog⟩

/-- For one, a variable for one port beside a file for another. -/
theorem loadFrom_layers_ports :
    let env : Environment :=
      { bindings := [(Text.encodeUtf8 "ECUCFG__GENERATOR__DOIP_PORT", Text.encodeUtf8 "13401"),
          (Text.encodeUtf8 "HOME", Text.encodeUtf8 "/home/u")] }
    let text := "[generator]\nserver_port = 8080\n"
    let t : FileTree :=
      { current := [], entries := [([Text.encodeUtf8 "e.toml"], .file (Text.encodeUtf8 text))] }
    let members := [("generator", Toml.table [("server_port", .integer 8080)])]
    let upper : SettingsLayer := { doipPort := some 13401 }
    let lower : SettingsLayer := { serverPort := some 8080 }
    PlainVariables env ∧ TextVariables env ∧ t.Holds (.ofText "e.toml") members ∧
      PlainFile members ∧ Says (variableSetting? env) .ofVariable upper ∧
        Says (fileSetting? members) .ofFile lower ∧
          (loadFrom env (.ofText "e.toml") : StateM FileTree (Except LoadFault Settings)).run t =
            (.ok { generator := { serverPort := 8080, doipPort := 13401 } }, t) := by
  intro env text t members upper lower
  have htool : env.toolVariables = [("generator__doip_port", Text.encodeUtf8 "13401")] := by
    decide +kernel
  have henv : PlainVariables env :=
    plainVariables_of_setting (n := ("generator", "doip_port")) (by decide) htool
  have htexts : TextVariables env := by
    rw [TextVariables, htool]
    decide
  have hdocument : Toml.PlainDocument text
      [.header false ["generator"], .assign ["server_port"] (.integer 8080)] := by
    have hheader := @Toml.PlainLine.header ["generator"] (by simp) (by decide)
    have hport := Toml.PlainLine.assign (show Toml.IsBareKey "server_port" by decide)
      (.integer (Toml.integerLiteral_decimalText 8080) (by decide))
    exact ⟨_, _, .cons hheader (.cons hport .nil), by decide, rfl⟩
  have hread : Toml.read? text = some members := by
    rw [Toml.read?_plainDocument hdocument]
    rfl
  have hfile : t.Holds (.ofText "e.toml") members :=
    FileTree.holds_of_content (by decide +kernel) (by decide +kernel) hread
  have hupper : Says (variableSetting? env) .ofVariable upper := by decide +kernel
  have hlower : Says (fileSetting? members) .ofFile lower := by decide +kernel
  have hlog : Converts (upper.over lower).logging.file
      (fun file => (Expansion.expandText env file).toOption) none := rfl
  exact ⟨henv, htexts, hfile, plainFile_generator _, hupper, hlower,
    loadFrom_layers henv htexts hfile (plainFile_generator _) hupper hlower hlog⟩

/-- A variable whose value is no text is in the way of all settings, also if it is that of none. -/
theorem loadFrom_error_of_variableNotText :
    let env : Environment := { bindings := [(Text.encodeUtf8 "ECUCFG__FOO", [0xFF])] }
    let t : FileTree := { current := [], entries := [([Text.encodeUtf8 "e.toml"], .file [])] }
    PlainVariables env ∧ t.Holds (.ofText "e.toml") [] ∧ PlainFile [] ∧
      Says (variableSetting? env) .ofVariable {} ∧ Says (fileSetting? []) .ofFile {} ∧
        (loadFrom env (.ofText "e.toml") : StateM FileTree (Except LoadFault Settings)).run t =
          (.error (.layer (.variableNotText "foo" [0xFF])), t) := by
  intro env t
  have htool : env.toolVariables = [("foo", [0xFF])] := by decide +kernel
  have henv : PlainVariables env := by
    refine ⟨?_, ?_, ?_, ?_⟩
    · rw [htool]; decide
    · rw [htool]; decide
    · rw [htool]; decide
    · have hkey : Hop.ofKey (Variables.keyOf "foo") = [.key "foo"] := by decide
      simp only [htool, List.mem_singleton, forall_eq, hkey]
      intro s _ hops heq
      simp at heq
  have hfile : t.Holds (.ofText "e.toml") [] :=
    @FileTree.holds_of_content t _ "" [] (by decide +kernel) (by decide +kernel) rfl
  obtain ⟨origin, hrun⟩ := run_loadFrom_of_holds env hfile
  refine ⟨henv, hfile, ⟨by simp, by simp⟩, by decide +kernel, by decide +kernel, ?_⟩
  rw [hrun, ofSources]
  have hsource : Variables.source env = .error (.variableNotText "foo" [0xFF]) := by
    have hkey : Variables.key? (Text.encodeUtf8 "ECUCFG__FOO") = some "foo".toList := by
      decide +kernel
    have htext : Text.decodeUtf8? [0xFF] = none := by decide
    simp [Variables.source, Variables.add, env, hkey, htext]
  rw [hsource]
  rfl

end Settings

end SovdConfig
