import SovdConfig.Proofs.Command.Delivery
import SovdConfig.Proofs.Disk.Parents

namespace SovdConfig

/-!
# Making the configuration file again

A run that is to make the configuration file by force, where there already is one.

Main statements:

* `Settings.run_writeDefault_of_read` — a configuration file that is there is replaced;
* `Program.run_recreate` — when the run comes to that, and what it leaves.

The settings are loaded before anything is made, and they come from the file that is to be replaced.
So a file from which no settings can be loaded, or which names a log file that cannot be opened, is
not replaced.
-/

namespace FileTree

variable {t : FileTree} {p : Path} {old : Bytes}

/-- A file that can be read is what its path leads to. -/
theorem exists_resolve_of_read (h : t.read p = .ok old) :
    namesDirectory p = false ∧ ∃ l, t.resolve p = .ok (.taken l (.file old)) := by
  rw [read] at h
  obtain ⟨place, hresolve, hread⟩ := exists_of_bind_eq_ok h
  rcases place with ⟨l, content | -⟩ | ⟨directory, name⟩
  · by_cases hslash : namesDirectory p = true
    · simp [hslash] at hread
    · obtain rfl : content = old := by simpa [hslash] using hread
      exact ⟨by simpa using hslash, l, hresolve⟩
  · cases hread
  · cases hread

/-- A file that can be read can be opened for writing. -/
theorem exists_openForWriting_of_read (h : t.read p = .ok old) :
    ∃ l, t.openForWriting p = .ok (l, old) := by
  obtain ⟨hslash, l, hresolve⟩ := exists_resolve_of_read h
  exact ⟨l, by rw [openForWriting, hresolve]; simp [hslash]⟩

/-- What has been put where a file was opened is read there. -/
theorem read_put {l : Location} (h : t.openForWriting p = .ok (l, old)) (content : Bytes) :
    (t.put l (.file content)).read p = .ok content := by
  rw [read, resolve_put h content, ok_bind]
  simp [(openForWriting_ok h).2.2]

end FileTree

open FileTree (Refuses)

/-- Where there is a configuration file it is replaced, and nothing else changes. -/
theorem Settings.run_writeDefault_of_read {t : FileTree} {path : Path} {old : Bytes}
    (h : t.read path = .ok old) :
    ∃ l, t.openForWriting path = .ok (l, old) ∧
      (writeDefault path : StateM FileTree (Except WriteFault Unit)).run t =
        (.ok (), t.put l (.file (defaultBytes path))) := by
  obtain ⟨hslash, _, hresolve⟩ := FileTree.exists_resolve_of_read h
  obtain ⟨l, hopen⟩ := FileTree.exists_openForWriting_of_read h
  have hwrite : t.write path (defaultBytes path) = .ok (t.put l (.file (defaultBytes path))) := by
    rw [FileTree.write, hopen]
    rfl
  have hfile : (Disk.write path (defaultBytes path) : StateM FileTree _).run t =
      (.ok (), t.put l (.file (defaultBytes path))) := FileTree.run_attempt_ok hwrite
  refine ⟨l, hopen, ?_⟩
  rw [writeDefault]
  rcases hparent : path.parent? with - | parent
  · exact run_bind_of_eq hfile _
  · -- the directory of the file is there, so none is made
    have hdirectory := FileTree.isDirectory_parent hresolve (by simp) hslash hparent
    have hmade : (Disk.createDirectories parent : StateM FileTree _).run t = (.ok (), t) := by
      show ((t.createDirectories parent).2, (t.createDirectories parent).1) = _
      rw [FileTree.createDirectories_of_isDirectory hdirectory]
    dsimp only
    rw [run_bind_of_eq hmade]
    exact run_bind_of_eq hfile _

/-- By force the configuration file is replaced where there is one. -/
theorem Setup.run_createSettings_of_read {s : Setup} {o : CommonOptions} {w : World} {old : Bytes}
    (hdry : o.dryRun = false) (h : w.disk.read s.path = .ok old) :
    ∃ l errors, w.disk.openForWriting s.path = .ok (l, old) ∧
      (s.createSettings o true : StateM World _).run w =
        (.ok (), { w with
          disk := w.disk.put l (.file (Settings.defaultBytes s.path)), errors := errors }) := by
  obtain ⟨l, hopen, hwrite⟩ := Settings.run_writeDefault_of_read h
  have hthere : (Disk.doesExist s.path : StateM World Bool).run w =
      (w.disk.isThere s.path, w) := rfl
  have hmade : (Settings.writeDefault s.path : StateM World (Except WriteFault Unit)).run w =
      (.ok (), { w with disk := w.disk.put l (.file (Settings.defaultBytes s.path)) }) := by
    rw [World.run_writeDefault, hwrite]
  rw [createSettings, run_bind_of_eq hthere, if_neg (by simp), if_neg (by simp [hdry]),
    run_bind_of_eq hmade]
  by_cases hquiet : o.quiet = true
  · exact ⟨l, w.errors, hopen, by simp [hquiet]; rfl⟩
  · exact ⟨l, _, hopen, by simp [hquiet]; rfl⟩

namespace Invocation

variable {i : Invocation} {env : Environment} {terminal force : Bool} {w w₁ w₂ : World} {s : Setup}

/-- Once a run is set up, the path of the configuration file is logged, and then the file is
    made. -/
theorem execute_createSettings (htask : i.task = .createSettings force)
    (hprepare : (i.prepare env terminal : StateM World _).run w = (.ok s, w₁))
    (hrecord : (Logger.log s.logger
      (programRecord .debug ("resolved paths: config: " ++ s.path.display)) :
        StateM World Unit).run w₁ = ((), w₂)) {r : Except Failure Unit} {w₃ : World}
    (hmade : (s.createSettings i.common force : StateM World _).run w₂ = (r, w₃)) :
    (i.execute env terminal : StateM World _).run w = (r.map fun () => .success, w₃) := by
  have hlog : (s.log .debug ("resolved paths: config: " ++ s.path.display) :
      StateM World Unit).run w₁ = ((), w₂) := hrecord
  rw [execute, run_bind_of_eq hprepare]
  dsimp only
  rw [perform, run_bind_of_eq hlog, htask]
  exact run_bind_of_eq hmade _

/-- With settings whose log file can be opened, the configuration file is replaced by force; but for
    the log file, nothing else changes. -/
theorem execute_recreate {settings : Settings} {path : Path} {old : Bytes}
    (htask : i.task = .createSettings true) (hdry : i.common.dryRun = false)
    (hpath : i.settingsPath? env w = some path) (hold : w.disk.read path = .ok old)
    (hsettings : i.settings? env w = some settings)
    (hlog : ¬ Refuses w.disk (i.logFile? env w)) (terminal : Bool) :
    ∃ w', (i.execute env terminal : StateM World _).run w = (.ok .success, w') ∧
      w'.disk.read path = .ok (Settings.defaultBytes path) ∧
      ∀ l, w.disk.entryOf? path ≠ some l → ¬ i.LogsAt env w l →
        w'.disk.node? l = w.disk.node? l := by
  obtain ⟨hfolder, hslash, l, hentry, hnode⟩ := FileTree.read_eq_ok_iff.1 hold
  obtain ⟨s, w₁, hprepare, -⟩ | ⟨e, w₁, -, -, hrefuses⟩ := prepare_of_settings hsettings terminal
  · obtain ⟨hs, hlogger⟩ := setup_of_prepare (congrArg Prod.fst hprepare)
    obtain rfl : s.path = path := Option.some.inj (hs.symm.trans hpath)
    -- the log file may be the configuration file, which is still a file then
    have hstable := (i.logStable_sameBut env w).and (logStable_isFile (i.logFile? env w) l)
    have hlogged := hstable.keeps_log hlogger
      (programRecord .debug ("resolved paths: config: " ++ s.path.display)) w₁
    rcases hrecord : (Logger.log s.logger
      (programRecord .debug ("resolved paths: config: " ++ s.path.display)) :
        StateM World Unit).run w₁ with ⟨⟨⟩, w₂⟩
    rw [hrecord] at hlogged
    have hprepared := i.keeps_prepare terminal hstable ⟨.refl _ w, old, hnode⟩
    rw [hprepare] at hprepared
    obtain ⟨hsame, content, hthere⟩ := hlogged hprepared
    have hread : w₂.disk.read s.path = .ok content := by
      refine FileTree.read_eq_ok_iff.2 ⟨?_, hslash, l, ?_, hthere⟩
      · exact (congrFun hsame.directories s.path).trans hfolder
      · exact (congrFun hsame.entries s.path).trans hentry
    obtain ⟨l', errors, hopen, hmade⟩ := Setup.run_createSettings_of_read hdry hread
    have hentry' : w₂.disk.entryOf? s.path = some l' := (FileTree.openForWriting_ok hopen).1
    obtain rfl : l' = l := Option.some.inj
      (hentry'.symm.trans ((congrFun hsame.entries s.path).trans hentry))
    refine ⟨_, execute_createSettings htask hprepare hrecord hmade,
      FileTree.read_put hopen _, fun other hother hlogs => ?_⟩
    have hne : other ≠ l' := by
      rintro rfl
      exact hother hentry
    show (w₂.disk.put l' (.file (Settings.defaultBytes s.path))).node? other = _
    rw [FileTree.node?_put _ (FileTree.ne_nil_of_node? (FileTree.openForWriting_ok hopen).2.1),
      if_neg hne]
    exact hsame.nodes other hlogs
  · exact absurd hrefuses hlog

/-- Without settings, or with a log file that cannot be opened, a run fails before it does
    anything. -/
theorem execute_of_unprepared
    (h : i.settings? env w = none ∨ Refuses w.disk (i.logFile? env w)) (terminal : Bool) :
    ∃ e w', (i.execute env terminal : StateM World _).run w = (.error e, w') ∧
      w'.disk = w.disk := by
  obtain ⟨e, w', hprepare, hsame⟩ : ∃ e w',
      (i.prepare env terminal : StateM World _).run w = (.error e, w') ∧ w'.disk = w.disk := by
    obtain ⟨s, w', hprepare, hlogged⟩ | ⟨e, w', hprepare, hsame, -⟩ :=
      i.prepare_logged env terminal w
    · rcases h with hnone | hrefuses
      · obtain ⟨e, hfailed⟩ := run_prepare_of_settings_none hnone terminal
        exact ⟨e, w, hfailed, rfl⟩
      · exact absurd hrefuses hlogged.not_refuses
    · exact ⟨e, w', hprepare, hsame⟩
  exact ⟨e, w', by rw [execute, run_bind_of_eq hprepare]; rfl, hsame⟩

/-- Where the configuration file can be read as it is found, the settings of a run are those of its
    content. -/
theorem exists_settings?_eq {path : Path} {content : Bytes}
    (hpath : i.settingsPath? env w = some path)
    (hcontent : w.disk.settingsContent? path = some content) :
    ∃ origin, i.settings? env w = ((Settings.fileSource origin content).bind fun source =>
      Settings.ofSources env (some source)).toOption := by
  obtain ⟨origin, hrun⟩ := Settings.run_loadFrom env w.disk path
  rw [hcontent] at hrun
  refine ⟨origin, ?_⟩
  rw [settings?, hpath]
  show ((Settings.load env path : StateM World _).run w).1.2.toOption = _
  rw [World.load_eq]
  show ((Settings.load env path : StateM FileTree _).run w.disk).1.2.toOption = _
  rw [Settings.run_load, hrun]

end Invocation

namespace Program

/-- A run that is to make the configuration file by force, where there is one that can be read.
    First, it succeeds if there are settings to start from, and if a log file that they name can be
    opened.  Second, then the configuration file holds the default settings, whatever it held
    before, and nothing else has changed but the log file.  Third, otherwise it fails and nothing
    has changed.  Fourth, the settings to start from are those in the file that is to be
    replaced. -/
theorem run_recreate {words : List Bytes} {i : Invocation} {env : Environment} {terminal : Bool}
    {w w₁ : World} {path : Path} {old : Bytes} {code : ExitCode}
    (hwords : Invocation.ofWords words = .ok i) (htask : i.task = .createSettings true)
    (hdry : i.common.dryRun = false) (hpath : i.settingsPath? env w = some path)
    (hold : w.disk.read path = .ok old)
    (hrun : (run env terminal words : StateM World _).run w = (code, w₁)) :
    (code = .success ↔ (i.settings? env w).isSome ∧ ¬ Refuses w.disk (i.logFile? env w)) ∧
    (code = .success → w₁.disk.read path = .ok (Settings.defaultBytes path) ∧
      ∀ l, w.disk.entryOf? path ≠ some l → ¬ i.LogsAt env w l →
        w₁.disk.node? l = w.disk.node? l) ∧
    (code ≠ .success → code = .failure ∧ w₁.disk = w.disk) ∧
    (w.disk.settingsContent? path = some old → ∃ origin, i.settings? env w =
      ((Settings.fileSource origin old).bind fun source =>
        Settings.ofSources env (some source)).toOption) := by
  rw [run_of_ofWords hwords] at hrun
  by_cases hready : (i.settings? env w).isSome ∧ ¬ Refuses w.disk (i.logFile? env w)
  · obtain ⟨settings, hsettings⟩ := Option.isSome_iff_exists.1 hready.1
    obtain ⟨w', hexecute, hwritten⟩ :=
      Invocation.execute_recreate htask hdry hpath hold hsettings hready.2 terminal
    rw [hexecute] at hrun
    cases hrun
    exact ⟨iff_of_true rfl hready, fun _ => hwritten, absurd rfl,
      Invocation.exists_settings?_eq hpath⟩
  · have hunready : i.settings? env w = none ∨ Refuses w.disk (i.logFile? env w) := by
      rw [not_and_or, not_not, Option.not_isSome_iff_eq_none] at hready
      exact hready
    obtain ⟨e, w', hexecute, hsame⟩ := Invocation.execute_of_unprepared hunready terminal
    rw [hexecute] at hrun
    cases hrun
    exact ⟨iff_of_false nofun hready, nofun, fun _ => ⟨rfl, hsame⟩,
      Invocation.exists_settings?_eq hpath⟩

/-- For one, a file with another port. -/
theorem run_recreate_port :
    let words := ["-q", "--config", "c.toml", "config", "init", "--force"].map Text.encodeUtf8
    let old := Text.encodeUtf8 "[generator]\nserver_port = 77\n"
    let path : Path := .ofText "c.toml"
    let w : World := { disk := ⟨[], [([Text.encodeUtf8 "c.toml"], .file old)]⟩ }
    w.disk.read path = .ok old ∧ ∃ w₁,
      (run {} false words : StateM World _).run w = (.success, w₁) ∧
        w₁.disk.read path = .ok (Settings.defaultBytes path) := by
  intro words old path w
  let i : Invocation :=
    { common := { config := some path, quiet := true }, task := .createSettings true }
  have hwords : Invocation.ofWords words = .ok i := by rfl
  have hpath : i.settingsPath? {} w = some path := by decide +kernel
  have hold : w.disk.read path = .ok old := by rfl
  have hsettings : (i.settings? {} w).isSome := by decide +kernel
  have hlog : ¬ Refuses w.disk (i.logFile? {} w) := by
    rintro ⟨p, e, hp, -⟩
    cases hp
  rcases hrun : (run {} false words : StateM World _).run w with ⟨code, w₁⟩
  obtain ⟨hcode, hwritten, -⟩ := run_recreate hwords rfl rfl hpath hold hrun
  obtain rfl := hcode.2 ⟨hsettings, hlog⟩
  exact ⟨hold, w₁, rfl, (hwritten rfl).1⟩

/-- A file that cannot be read as settings is in the way of its own replacement. -/
theorem run_recreate_malformed :
    let words := ["--config", "c.toml", "config", "init", "--force"].map Text.encodeUtf8
    let old := Text.encodeUtf8 "[bad"
    let path : Path := .ofText "c.toml"
    let w : World := { disk := ⟨[], [([Text.encodeUtf8 "c.toml"], .file old)]⟩ }
    let r := (run {} false words : StateM World _).run w
    w.disk.read path = .ok old ∧ r.1 = .failure ∧ r.2.disk = w.disk := by
  decide +kernel

end Program

end SovdConfig
