import SovdConfig.Proofs.Settings.DefaultFile

namespace SovdConfig

/-!
# Missing configuration files

What is loaded for a path at which there is no file.  Main definition: `FileTree.beside?`, the file
that is then looked at instead, whose name has `.toml` appended.

Main statements:

* `FileTree.settingsFile?_of_missing` — that file is the only one that can be read;
* `Settings.load_of_missing` — without it the settings are the defaults and what the environment
  says, as with an empty file.
-/

namespace FileTree

variable {t : FileTree} {path : Path}

/-- The file whose path is the given one from the root, with `.toml` appended to its name. -/
def beside? (t : FileTree) (path : Path) : Option Path :=
  (((pathOf t.current).join path).extendName? (Text.encodeUtf8 ".toml")).filter fun p => t.isFile p

/-- A file is at a path without a slash at its end, and can be read. -/
theorem isFile_iff {p : Path} : t.isFile p = true ↔
    namesDirectory p = false ∧ ∃ l content, t.resolve p = .ok (.taken l (.file content)) := by
  unfold isFile find?
  rcases t.resolve p with e | ⟨l, content | -⟩ | ⟨directory, name⟩
  · simp
  · by_cases hslash : namesDirectory p = true <;> simp [hslash]
  · simp
  · simp

/-- A file can be read. -/
theorem exists_read_of_isFile {p : Path} (h : t.isFile p = true) :
    ∃ content, t.read p = .ok content := by
  obtain ⟨hslash, l, content, hresolve⟩ := isFile_iff.1 h
  exact ⟨content, by simp [read, hresolve, hslash]⟩

/-- A file is found by the path that starts with the current directory only if it is found by the
    path itself. -/
theorem isFile_of_isFile_join (h : t.HasCurrent)
    (hfile : t.isFile ((pathOf t.current).join path) = true) : t.isFile path = true := by
  obtain ⟨hslash, l, content, hresolve⟩ := isFile_iff.1 hfile
  have hend := isIdle_endOf_eq_false hresolve (by simp) hslash
  rw [Path.endOf_join] at hend
  have hne : path.bytes ≠ [] := by
    intro hempty
    rw [hempty] at hend
    cases hend
  rw [resolve_join h hne (isTaken_of_resolve hresolve).1] at hresolve
  exact isFile_iff.2 ⟨namesDirectory_eq_false hend, l, content, hresolve⟩

/-- Where there is no file at a path, the one beside it is read, if there is one. -/
theorem settingsFile?_of_missing (h : t.HasCurrent) (hmissing : t.isFile path = false) :
    t.settingsFile? path = t.beside? path := by
  have hwhole : ¬ t.isFile ((pathOf t.current).join path) = true := by
    intro hfile
    rw [isFile_of_isFile_join h hfile] at hmissing
    cases hmissing
  rw [settingsFile?, if_neg hwhole]
  rfl

end FileTree

namespace Settings

variable {env : Environment} {t : FileTree} {path : Path}

/-- Where a path leads to an empty file, the settings are the defaults and what the environment
    says. -/
theorem load_of_empty (hcurrent : t.HasCurrent) (hempty : t.find? path = some (.file [])) :
    ((load env path : StateM FileTree _).run t).1.2 = ofSources env none := by
  obtain ⟨origin, hrun⟩ := run_loadFrom env t path
  obtain ⟨hslash, l, content, hresolve⟩ :=
    FileTree.isFile_iff.1 (show t.isFile path = true by rw [FileTree.isFile, hempty])
  obtain rfl : content = [] := by
    simpa [FileTree.find?, hresolve, hslash] using hempty
  rw [run_load, hrun]
  -- the empty file is read, unless the path from the root is too long
  rcases settingsContent?_of_resolve hcurrent hresolve hslash with hcontent | hcontent
  · rw [hcontent]
    rfl
  · rw [hcontent]

/-- What is loaded for a path at which there is no file.  First, it is logged if nothing is there,
    and no file changes.  Second, if there is no file beside it either, the settings are the
    defaults and what the environment says, as they are wherever the path leads to an empty file.
    Third, if there is a file beside it, the settings are those of that file.  Fourth, no other file
    has a part in them. -/
theorem load_of_missing (hcurrent : t.HasCurrent) (hmissing : t.isFile path = false)
    (env : Environment) :
    ∃ result, (load env path : StateM FileTree _).run t =
        ((loadLog path (t.isThere path), result), t) ∧
      (t.beside? path = none → result = ofSources env none ∧
        ∀ t' : FileTree, t'.HasCurrent → t'.find? path = some (.file []) →
          ((load env path : StateM FileTree _).run t').1.2 = result) ∧
      (∀ file, t.beside? path = some file → ∃ content, t.read file = .ok content ∧
        result = (fileSource (file.relativeTo (FileTree.pathOf t.current)).display content).bind
          fun source => ofSources env (some source)) ∧
      ∀ t' : FileTree, t'.current = t.current → t'.HasCurrent → t'.isFile path = false →
        t'.beside? path = t.beside? path →
        (∀ file, t.beside? path = some file → t'.read file = t.read file) →
          ((load env path : StateM FileTree _).run t').1.2 = result := by
  refine ⟨_, run_load env t path, ?_, ?_, ?_⟩
  · intro hnone
    have hresult : ((loadFrom env path : StateM FileTree (Except LoadFault Settings)).run t).1 =
        ofSources env none := by
      rw [run_loadFrom_eq, FileTree.settingsFile?_of_missing hcurrent hmissing, hnone]
    rw [hresult]
    exact ⟨rfl, fun t' hcurrent' hempty => load_of_empty hcurrent' hempty⟩
  · intro file hfile
    obtain ⟨content, hread⟩ := FileTree.exists_read_of_isFile (Option.filter_eq_some_iff.1 hfile).2
    refine ⟨content, hread, ?_⟩
    rw [run_loadFrom_eq, FileTree.settingsFile?_of_missing hcurrent hmissing, hfile]
    dsimp only
    rw [hread]
  · intro t' hhere hcurrent' hmissing' hbeside hread
    -- both trees are looked at in the same place, and have the same there
    rw [run_load, run_loadFrom_eq, run_loadFrom_eq,
      FileTree.settingsFile?_of_missing hcurrent hmissing,
      FileTree.settingsFile?_of_missing hcurrent' hmissing', hbeside, hhere]
    rcases hfile : t.beside? path with - | file
    · rfl
    · dsimp only
      rw [hread file hfile]

/-- For one, a file with another name. -/
theorem load_of_missing_other :
    let t : FileTree := ⟨[], [([Text.encodeUtf8 "f.toml"],
      .file (Text.encodeUtf8 "[generator]\nserver_port = 77\n"))]⟩
    let path : Path := .ofText "e.toml"
    t.HasCurrent ∧ t.isFile path = false ∧ (load {} path : StateM FileTree _).run t =
      (([⟨.debug, "ecucfg_core::config", "no config file at e.toml, using defaults"⟩], .ok {}),
        t) := by
  intro t path
  have hcurrent : t.HasCurrent := by rfl
  have hmissing : t.isFile path = false := by decide +kernel
  have hbeside : t.beside? path = none := by decide +kernel
  have hlog : loadLog path (t.isThere path) =
      [⟨.debug, "ecucfg_core::config", "no config file at e.toml, using defaults"⟩] := by
    decide +kernel
  have hdefaults : ofSources {} none = .ok {} := toOption_eq_some_iff.1 (by decide +kernel)
  obtain ⟨result, hrun, halone, -⟩ := load_of_missing hcurrent hmissing {}
  rw [(halone hbeside).1, hdefaults, hlog] at hrun
  exact ⟨hcurrent, hmissing, hrun⟩

/-- A file whose name has `.toml` after that of the missing one is loaded, although it is logged
    that the defaults are used. -/
theorem load_beside :
    let t : FileTree := ⟨[], [([Text.encodeUtf8 "e.conf.toml"],
      .file (Text.encodeUtf8 "[generator]\nserver_port = 77\n"))]⟩
    let path : Path := .ofText "e.conf"
    let r := (load {} path : StateM FileTree _).run t
    t.HasCurrent ∧ t.isFile path = false ∧ r.1.1 =
      [⟨.debug, "ecucfg_core::config", "no config file at e.conf, using defaults"⟩] ∧
      r.1.2.toOption = some { generator := { serverPort := 77 } } ∧
      (ofSources {} none).toOption = some {} := by
  intro t path r
  exact ⟨rfl, by decide +kernel, by decide +kernel, by decide +kernel, by decide +kernel⟩

end Settings

end SovdConfig
