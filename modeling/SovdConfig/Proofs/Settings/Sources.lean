import SovdConfig.Proofs.Layer.Decoding
import SovdConfig.Proofs.Layer.File
import SovdConfig.Proofs.Layer.Variables
import SovdConfig.Settings.Load

namespace SovdConfig

/-!
# What the sources say of the settings

Main definitions:

* `FileTree.settingsContent?` — the content of the configuration file, if there is one;
* `FileTree.Holds` — whether a configuration file has certain members, a missing file having none;
* `Settings.given?` — what is given for a setting: by its variable, or else by the file.

Main statements:

* `Settings.toSettings_perm` — in which order the entries of a source are listed does not matter;
* `Settings.loadFrom_iff` — the settings that are loaded are what is given of each.
-/

namespace FileTree

/-- The configuration file of a path: the file there, or else the one with `.toml` after its
    name. -/
def settingsFile? (t : FileTree) (path : Path) : Option Path :=
  let whole := (pathOf t.current).join path
  if t.isFile whole then some whole
  else (whole.extendName? (Text.encodeUtf8 ".toml")).filter fun extended => t.isFile extended

/-- The content of the configuration file of a path, if there is one and it can be read. -/
def settingsContent? (t : FileTree) (path : Path) : Option Bytes :=
  (t.settingsFile? path).bind fun file => (t.read file).toOption

/-- Whether the configuration file of a path has certain members; no file has none. -/
def Holds (t : FileTree) (path : Path) (members : List (String × Toml)) : Prop :=
  match t.settingsContent? path with
  | none => members = []
  | some content => Toml.read? (Settings.fileText content) = some members

/-- A file with a text has the members of that text. -/
theorem holds_of_content {t : FileTree} {path : Path} {text : String}
    {members : List (String × Toml)}
    (hcontent : t.settingsContent? path = some (Text.encodeUtf8 text))
    (htext : Settings.fileText (Text.encodeUtf8 text) = text)
    (hread : Toml.read? text = some members) :
    t.Holds path members := by
  rw [Holds, hcontent]
  show Toml.read? (Settings.fileText _) = _
  rw [htext, hread]

/-- No key of a file occurs twice in a table. -/
theorem Holds.distinct {t : FileTree} {path : Path} {members : List (String × Toml)}
    (h : t.Holds path members) : (Toml.table members).Distinct := by
  rw [Holds] at h
  split at h
  · subst h
    exact .table (by simp) (by simp)
  · exact Toml.read?_distinct h

end FileTree

namespace Settings

open Datum (addSource ofToml ofTomlMembers setting? toSettings)
open Variables (datumOf)

/-! ### Reading the file -/

/-- The file is looked for without a change. -/
theorem run_sourceFile? (t : FileTree) (path : Path) :
    (sourceFile? path : StateM FileTree (Option Path)).run t = (t.settingsFile? path, t) := by
  have hisFile : ∀ p, (Disk.isFile p : StateM FileTree Bool).run t = (t.isFile p, t) :=
    fun _ => rfl
  have hhere : (Disk.currentDirectory : StateM FileTree Path).run t =
      (FileTree.pathOf t.current, t) := rfl
  rw [sourceFile?, FileTree.settingsFile?, run_bind_of_eq hhere]
  dsimp only
  rw [run_bind_of_eq (hisFile _)]
  by_cases hfile : t.isFile ((FileTree.pathOf t.current).join path)
  · rw [if_pos hfile, if_pos hfile]
    rfl
  · rw [if_neg hfile, if_neg hfile]
    rcases ((FileTree.pathOf t.current).join path).extendName? (Text.encodeUtf8 ".toml") with
      - | extended
    · rfl
    · dsimp only
      rw [run_bind_of_eq (hisFile extended), Option.filter_some]
      split <;> rfl

/-- The settings are loaded from the file that is found, if it can be read, and no file changes. -/
theorem run_loadFrom_eq (env : Environment) (t : FileTree) (path : Path) :
    (loadFrom env path : StateM FileTree (Except LoadFault Settings)).run t =
      (match t.settingsFile? path with
        | none => ofSources env none
        | some file =>
          match t.read file with
          | .error _ => ofSources env none
          | .ok content =>
            (fileSource (file.relativeTo (FileTree.pathOf t.current)).display content).bind
              fun source => ofSources env (some source),
        t) := by
  rw [loadFrom, run_bind_of_eq (run_sourceFile? t path)]
  rcases t.settingsFile? path with - | file
  · rfl
  · have hhere : (Disk.currentDirectory : StateM FileTree Path).run t =
        (FileTree.pathOf t.current, t) := rfl
    have hread : (Disk.read file : StateM FileTree (Except DiskFault Bytes)).run t =
        (t.read file, t) := rfl
    dsimp only
    rw [run_bind_of_eq hhere, run_bind_of_eq hread]
    rcases t.read file with - | content
    · rfl
    · rfl

/-- The settings are loaded from what the content of the file says, if it can be read. -/
theorem run_loadFrom (env : Environment) (t : FileTree) (path : Path) :
    ∃ origin : String, (loadFrom env path : StateM FileTree (Except LoadFault Settings)).run t =
      (match t.settingsContent? path with
        | none => ofSources env none
        | some content =>
          (fileSource origin content).bind fun source => ofSources env (some source),
        t) := by
  rw [run_loadFrom_eq, FileTree.settingsContent?]
  rcases t.settingsFile? path with - | file
  · exact ⟨"", rfl⟩
  · refine ⟨(file.relativeTo (FileTree.pathOf t.current)).display, ?_⟩
    rw [Option.bind_some]
    dsimp only
    rcases t.read file with - | content
    · rfl
    · rfl

/-- It is logged that nothing is at the path, and the settings are loaded as they are. -/
theorem run_load (env : Environment) (t : FileTree) (path : Path) :
    (load env path : StateM FileTree _).run t =
      ((loadLog path (t.isThere path),
        ((loadFrom env path : StateM FileTree (Except LoadFault Settings)).run t).1), t) := by
  have hthere : (Disk.doesExist path : StateM FileTree Bool).run t = (t.isThere path, t) := rfl
  have hrun := run_loadFrom_eq env t path
  rw [load, run_bind_of_eq hthere, run_bind_of_eq hrun, hrun]
  rfl

/-- The settings follow from the members of the file and the variables. -/
theorem run_loadFrom_of_holds (env : Environment) {t : FileTree} {path : Path}
    {members : List (String × Toml)} (hfile : t.Holds path members) :
    ∃ origin : String, (loadFrom env path : StateM FileTree (Except LoadFault Settings)).run t =
      (ofSources env (some (ofTomlMembers origin members)), t) := by
  obtain ⟨origin, hrun⟩ := run_loadFrom env t path
  refine ⟨origin, hrun.trans ?_⟩
  rw [FileTree.Holds] at hfile
  rcases hcontent : t.settingsContent? path with - | content
  · rw [hcontent] at hfile
    obtain rfl : members = [] := hfile
    rfl
  · rw [hcontent] at hfile
    have hread : Toml.read? (fileText content) = some members := hfile
    simp only [fileSource, hread]
    rfl

/-- The defaults are known in their sections. -/
theorem knownDefaults_eq : knownDefaults = .table none
    [("logging", .table none [("level", .scalar none (.text "warn"))]),
      ("generator", .table none [("interface", .scalar none (.text "vcan0"))])] := by
  have hlevel : Hop.ofKey "logging.level" = [.key "logging", .key "level"] := by decide
  have hinterface : Hop.ofKey "generator.interface" = [.key "generator", .key "interface"] := by
    decide
  simp [knownDefaults, addSource, hlevel, hinterface, Datum.put, Datum.asTable, Datum.overlay,
    setMember, LogLevel.name, defaultInterface, List.lookup_cons]

/-- The defaults have sections. -/
theorem sectioned_knownDefaults : knownDefaults.Sectioned := by
  rw [knownDefaults_eq]
  refine ⟨⟨_, _, rfl⟩, by simp [Datum.members, Datum.asTable], by simp [Datum.members,
    Datum.asTable, List.lookup_cons], fun sec hsec => ?_⟩
  simp only [sectionNames, List.mem_cons, List.not_mem_nil, or_false] at hsec
  rcases hsec with rfl | rfl <;>
    simp [Datum.members, Datum.asTable, List.lookup_cons]

/-- The section `generator` has no part in the path of the log file. -/
theorem generator_of_expandLogFile {env : Environment} {s s' : Settings}
    (h : expandLogFile env s = .ok s') : s'.generator = s.generator := by
  unfold expandLogFile at h
  split at h
  · cases h
    rfl
  · split at h <;> cases h
    rfl

/-! ### What is given -/

/-- What is given for a setting: what its variable says, or else what the file says. -/
def given? (origin : String) (ofVariables : String → String → Option String)
    (ofFile : String → String → Option Toml) (sec key : String) : Option Datum :=
  (ofVariables sec key).map datumOf <|> (ofFile sec key).map (ofToml origin)

/-- A default that is known changes nothing if a missing part gives the same. -/
theorem gives_getD_default {δ α : Type} {part : Option δ} {d : δ} {read : δ → Option α}
    {default a : α} (h : read d = some default) :
    Gives (some (part.getD d)) read default a ↔ Gives part read default a := by
  cases part with
  | none => simp [Gives, h, eq_comm]
  | some e => rfl

/-- Settings are what is given of them, over the defaults. -/
theorem settingsAre_over_defaults {known given : String → String → Option Datum} {s : Settings}
    (h : ∀ n ∈ settingNames, known n.1 n.2 = (given n.1 n.2 <|> knownDefaults.setting? n.1 n.2)) :
    SettingsAre known s ↔ SettingsAre given s := by
  -- the defaults of the level and of the interface are those of a missing part; no others are known
  have hlevel : reads? Datum.toLevel (.scalar none (.text "warn")) = some .warn := by decide
  have hinterface : reads? Datum.toText (.scalar none (.text "vcan0")) = some "vcan0" := rfl
  simp [settingNames, knownDefaults_eq, setting?, Datum.members, Datum.asTable,
    List.lookup_cons] at h
  simp only [settingsAre_iff, loggingAre_iff, generatorAre_iff, h, gives_getD_default hlevel,
    gives_getD_default hinterface]

section

variable {env : Environment} {members members' : List (String × Toml)}
  {source overrides : List (String × Datum)} {s : Settings}

section

variable (henv : PlainVariables env) (hplain : PlainFile members)
  (hdistinct : (Toml.table members).Distinct)
  (hvalues : ∀ n ∈ settingNames, variableSetting? env n.1 n.2 = none →
    ∀ v, fileSetting? members n.1 n.2 = some v → ∀ ms, v ≠ .table ms)

include henv hplain hdistinct hvalues

/-- Settings are read from the entries of plain sources as what is given of each, in whatever order
    the entries of a source are listed, if the file has no table for a setting without a
    variable. -/
theorem toSettings_iff_of_perm (origin : String) (hsource : Variables.source env = .ok source)
    (hmembers : members.Perm members') (hoverrides : source.Perm overrides) :
    (toSettings (addSource (addSource knownDefaults (ofTomlMembers origin members'))
        overrides)).toOption = some s ↔
      SettingsAre (given? origin (variableSetting? env) (fileSetting? members)) s := by
  obtain ⟨hfile, hfileSetting⟩ := Datum.addSource_file sectioned_knownDefaults
    (hplain.perm hmembers) (hdistinct.perm hmembers) origin
  obtain ⟨hsectioned, hsetting⟩ := Datum.addSource_variables hfile henv hsource hoverrides
  rw [Datum.toOption_toSettings_iff hsectioned]
  refine settingsAre_over_defaults fun n hn => ?_
  rw [hsetting n hn, given?]
  -- where a variable says something, the file is not asked
  rcases hvariable : variableSetting? env n.1 n.2 with - | text
  · have hvalue := hvalues n hn hvariable
    rw [← fileSetting?_perm hdistinct hmembers] at hvalue ⊢
    rw [hfileSetting n.1 (mem_sectionNames n hn) n.2 hvalue]
    rfl
  · rfl

/-- The settings that follow from a file and the variables are what is given of each, if the file
    has no table for a setting without a variable. -/
theorem ofSources_iff_of_free (htexts : TextVariables env) (origin : String) :
    ofSources env (some (ofTomlMembers origin members)) = .ok s ↔
      ∃ s₀, SettingsAre (given? origin (variableSetting? env) (fileSetting? members)) s₀ ∧
        expandLogFile env s₀ = .ok s := by
  obtain ⟨source, hsource⟩ : ∃ source, Variables.source env = .ok source :=
    ⟨_, Variables.source_eq_ok_iff.2 ⟨htexts, rfl⟩⟩
  rw [← toOption_eq_some_iff, ofSources, hsource, Option.getD_some]
  show (((toSettings (addSource (addSource knownDefaults (ofTomlMembers origin members))
    source)).mapError LoadFault.layer) >>= fun s₀ => expandLogFile env s₀).toOption = some s ↔ _
  rw [toOption_bind, toOption_mapError, Option.bind_eq_some_iff]
  refine exists_congr fun s₀ => and_congr ?_ toOption_eq_some_iff
  exact toSettings_iff_of_perm henv hplain hdistinct hvalues origin hsource (.refl _) (.refl _)

/-- The order in which the entries of plain sources are listed does not matter to the settings that
    are read. -/
theorem toSettings_perm (origin : String) (hsource : Variables.source env = .ok source)
    (hmembers : members.Perm members') (hoverrides : source.Perm overrides) :
    (toSettings (addSource (addSource knownDefaults (ofTomlMembers origin members'))
        overrides)).toOption =
      (toSettings (addSource (addSource knownDefaults (ofTomlMembers origin members))
        source)).toOption := by
  refine Option.ext fun s => ?_
  have hlisted := toSettings_iff_of_perm (s := s) henv hplain hdistinct hvalues origin hsource
    hmembers hoverrides
  exact hlisted.trans
    (toSettings_iff_of_perm henv hplain hdistinct hvalues origin hsource (.refl _) (.refl _)).symm

end

/-- Where two entries of a source meet, the order does matter. -/
example :
    let whole : String × Datum := ("generator", datumOf "x")
    let port : String × Datum := ("generator.server_port", datumOf "1")
    (toSettings (addSource knownDefaults [whole, port])).toOption.isSome ∧
      (toSettings (addSource knownDefaults [port, whole])).toOption = none := by
  decide +kernel

/-- The settings that follow from a file and the variables are what is given of each, if the file
    has no table for any setting. -/
theorem ofSources_iff (henv : PlainVariables env) (htexts : TextVariables env)
    (hplain : PlainFile members) (hdistinct : (Toml.table members).Distinct)
    (hvalues : ∀ n ∈ settingNames, ∀ v, fileSetting? members n.1 n.2 = some v →
      ∀ ms, v ≠ .table ms) (origin : String) :
    ofSources env (some (ofTomlMembers origin members)) = .ok s ↔
      ∃ s₀, SettingsAre (given? origin (variableSetting? env) (fileSetting? members)) s₀ ∧
        expandLogFile env s₀ = .ok s :=
  ofSources_iff_of_free henv hplain hdistinct (fun n hn _ => hvalues n hn) htexts origin

/-- The settings that are loaded are what is given of each, with the path of the log file expanded;
    loading changes no file. -/
theorem loadFrom_iff {t : FileTree} {path : Path} (henv : PlainVariables env)
    (htexts : TextVariables env) (hfile : t.Holds path members) (hplain : PlainFile members)
    (hvalues : ∀ n ∈ settingNames, ∀ v, fileSetting? members n.1 n.2 = some v →
      ∀ ms, v ≠ .table ms) :
    ∃ origin, ∀ s,
      (loadFrom env path : StateM FileTree (Except LoadFault Settings)).run t = (.ok s, t) ↔
        ∃ s₀, SettingsAre (given? origin (variableSetting? env) (fileSetting? members)) s₀ ∧
        expandLogFile env s₀ = .ok s := by
  obtain ⟨origin, hrun⟩ := run_loadFrom_of_holds env hfile
  refine ⟨origin, fun s => ?_⟩
  rw [hrun, Prod.mk.injEq, and_iff_left rfl]
  exact ofSources_iff henv htexts hplain hfile.distinct hvalues origin

end

end Settings

end SovdConfig
