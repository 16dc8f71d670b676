import SovdConfig.Proofs.Command.Sparing
import SovdConfig.Proofs.Disk.Growth
import SovdConfig.Proofs.Settings.Sources

namespace SovdConfig

/-!
# Setting up and logging

What a run looks up before it does anything, and what it logs on the way.  Main definitions:

* `Invocation.settingsPath?`, `Invocation.settings?`, `Invocation.logFile?` — the configuration
  file, the settings and the log file of a run;
* `LogStable` — properties of worlds that reports and lines in the log file leave alone.

Main statements:

* `Invocation.run_prepare` — a run looks its settings up, opens its log and changes nothing else;
* `LogStable.keeps_prepare`, `LogStable.keeps_log`, `LogStable.keeps_configuration` — so it keeps
  all such properties until it delivers what it has generated.
-/

namespace Invocation

/-- The path of the configuration file that a run starts from. -/
def settingsPath? (i : Invocation) (env : Environment) (w : World) : Option Path :=
  ((ConfigLocation.locate env i.common.config : StateM World _).run w).1.toOption

/-- The settings that a run starts from, if they can be loaded. -/
def settings? (i : Invocation) (env : Environment) (w : World) : Option Settings := do
  let path ← i.settingsPath? env w
  ((Settings.load env path : StateM World _).run w).1.2.toOption

/-- The log file that the settings name, unless the run is quiet. -/
def logFile? (i : Invocation) (env : Environment) (w : World) : Option Path :=
  if i.common.quiet then none
  else do
    let path ← i.settingsPath? env w
    let settings ← ((Settings.load env path : StateM World _).run w).1.2.toOption
    settings.logging.file.map Path.ofText

end Invocation

/-! ### What is looked up -/

/-- The path of the configuration file is found without a change. -/
theorem onlyLooks_locate (env : Environment) (given : Option Path) :
    OnlyLooks (ConfigLocation.locate env given : StateM World _) := by
  unfold ConfigLocation.locate
  split
  · split
    · exact .pure _
    · exact .pure _
  · split
    · exact .pure _
    · next p _ =>
      have hlook : OnlyLooks (Disk.isDirectory p : StateM World Bool) := fun _ => rfl
      refine hlook.bind fun isDirectory => ?_
      split
      · exact .pure _
      · exact .pure _

/-- What is done in a tree one after the other is done so in a world. -/
theorem World.onDisk_bind {α β : Type} (x : StateM FileTree α) (f : α → StateM FileTree β) :
    onDisk (x >>= f) = onDisk x >>= fun a => onDisk (f a) := rfl

/-- The file with the settings is looked for as in the tree. -/
theorem World.sourceFile?_eq (path : Path) :
    (Settings.sourceFile? path : StateM World _) = onDisk (Settings.sourceFile? path) := by
  rw [Settings.sourceFile?, Settings.sourceFile?, onDisk_bind]
  refine bind_congr fun here => ?_
  rw [onDisk_bind]
  refine bind_congr fun isFile => ?_
  cases isFile with
  | true => rfl
  | false =>
    simp only [Bool.false_eq_true, if_false]
    cases (here.join path).extendName? (Text.encodeUtf8 ".toml") with
    | none => rfl
    | some extended =>
      dsimp only
      rw [onDisk_bind]
      exact bind_congr fun isExtended => by cases isExtended <;> rfl

/-- Settings are loaded as in the tree. -/
theorem World.load_eq (env : Environment) (path : Path) :
    (Settings.load env path : StateM World _) = onDisk (Settings.load env path) := by
  have hfrom : (Settings.loadFrom env path : StateM World _) =
      onDisk (Settings.loadFrom env path) := by
    rw [Settings.loadFrom, Settings.loadFrom, onDisk_bind, sourceFile?_eq]
    refine bind_congr fun source => ?_
    cases source with
    | none => rfl
    | some file =>
      dsimp only
      rw [onDisk_bind]
      refine bind_congr fun here => ?_
      rw [onDisk_bind]
      exact bind_congr fun content => by cases content <;> rfl
  rw [Settings.load, Settings.load, onDisk_bind, hfrom]
  rfl

/-- So nothing changes when they are loaded. -/
theorem onlyLooks_load (env : Environment) (path : Path) :
    OnlyLooks (Settings.load env path : StateM World _) := by
  intro w
  rw [World.load_eq]
  show { w with disk := ((Settings.load env path : StateM FileTree _).run w.disk).2 } = w
  rw [Settings.run_load]

/-! ### Log records -/

/-- An operation on the file system is one on the tree. -/
theorem World.run_onDisk {α : Type} {f : StateM FileTree α} {w : World} {a : α} {t : FileTree}
    (h : f.run w.disk = (a, t)) : (World.onDisk f).run w = (a, { w with disk := t }) := by
  have hrun : f w.disk = (a, t) := h
  show World.onDisk f w = _
  rw [World.onDisk, hrun]

/-- A property of worlds that neither a report on the error stream nor a line in the log file
    changes. -/
structure LogStable (log : Option Path) (P : World → Prop) : Prop where
  report : ∀ (w : World) (text : String), P w → P { w with errors := w.errors ++ text }
  append : ∀ (w : World) (p : Path) (more : Bytes) (t : FileTree), log = some p → P w →
    w.disk.appendTo p more = .ok t → P { w with disk := t }

/-- Whether a logger writes to the log file if it writes to a file. -/
def Logger.WritesTo (logger : Option Logger) (log : Option Path) : Prop :=
  ∀ l p, logger = some l → l.sink = .file p → log = some p

namespace LogStable

variable {log : Option Path} {P : World → Prop}

/-- Two properties at once. -/
theorem and {Q : World → Prop} (h : LogStable log P) (h' : LogStable log Q) :
    LogStable log fun w => P w ∧ Q w where
  report w text hw := ⟨h.report w text hw.1, h'.report w text hw.2⟩
  append w p more t hp hw happend :=
    ⟨h.append w p more t hp hw.1 happend, h'.append w p more t hp hw.2 happend⟩

/-- A report on the error stream. -/
theorem keeps_printError (h : LogStable log P) (text : String) :
    Keeps P (Console.printError text : StateM World Unit) := fun w hw => h.report w text hw

/-- A line in the log file, whether or not it can be written. -/
theorem keeps_append (h : LogStable log P) {p : Path} (hp : log = some p) (more : Bytes) :
    Keeps P (Disk.append p more : StateM World _) := by
  intro w hw
  rcases happend : w.disk.appendTo p more with e | t
  · have hrun : (Disk.append p more : StateM World _).run w = (.error e, w) :=
      World.run_onDisk (FileTree.run_attempt_error happend)
    rwa [hrun]
  · have hrun : (Disk.append p more : StateM World _).run w = (.ok (), { w with disk := t }) :=
      World.run_onDisk (FileTree.run_attempt_ok happend)
    rw [hrun]
    exact h.append w p more t hp hw happend

/-- A log record. -/
theorem keeps_log (h : LogStable log P) {logger : Option Logger}
    (hlogger : Logger.WritesTo logger log) (r : LogRecord) :
    Keeps P (Logger.log logger r : StateM World Unit) := by
  cases logger with
  | none => exact .pure ()
  | some l =>
    have htime : OnlyLooks (Console.now : StateM World Timestamp) := fun _ => rfl
    refine .ite (fun _ => htime.keeps.bind fun time => ?_) fun _ => .pure ()
    rcases hsink : l.sink with colored | p
    · exact h.keeps_printError _
    · exact (h.keeps_append (hlogger l p rfl hsink) _).bind fun _ => .pure ()

/-- A configuration is generated, and log records are written on the way. -/
theorem keeps_configuration (h : LogStable log P) {logger : Option Logger}
    (hlogger : Logger.WritesTo logger log) (settings : GeneratorSettings) (mode : GenerateMode) :
    Keeps P (mode.configuration logger settings : StateM World _) := by
  have hclock : OnlyLooks (Console.readings : StateM World (Nat → Timestamp)) := fun _ => rfl
  cases mode with
  | discovery path =>
    have hload : OnlyLooks (Discovery.load path : StateM World _) := fun _ => rfl
    refine .bind ?_ fun _ => .pure _
    refine (h.keeps_log hlogger _).bind fun _ => hload.keeps.bind fun d => ?_
    split
    · exact .pure _
    · exact (h.keeps_log hlogger _).bind fun _ => hclock.keeps.bind fun _ => .pure _
  | direct identity interface kind =>
    refine .bind ?_ fun _ => .pure _
    exact (h.keeps_log hlogger _).bind fun _ => hclock.keeps.bind fun _ => .pure _
  | usage => exact .pure _

end LogStable

/-! ### Loggers -/

namespace CommonOptions

variable {o : CommonOptions} {env : Environment} {terminal : Bool} {settings : LoggingSettings}

/-- The logger of a run that is not quiet, once its filter is known. -/
def openSink (o : CommonOptions) (env : Environment) (terminal : Bool) (settings : LoggingSettings)
    (filter : LogFilter) : StateM World (Except Failure (Option Logger)) :=
  match settings.file with
  | none => return .ok (some ⟨filter, .errors (o.isColored env terminal)⟩)
  | some file => do
    match ← Disk.append (.ofText file) [] with
    | .ok () => return .ok (some ⟨filter, .file (.ofText file)⟩)
    | .error e => return .error (.logFile file e)

/-- Faults in what the environment asks for are told before the log file is opened. -/
theorem openLogger_eq : (o.openLogger env terminal settings : StateM World _) =
    if o.quiet then return .ok none
    else
      let (filter, faults) := Logger.filterFor env (o.logLevel settings.level)
      if !faults.isEmpty then do
        Console.printError (String.join (faults.map LogFilter.SpecFault.warning))
        o.openSink env terminal settings filter
      else o.openSink env terminal settings filter := rfl

/-- A logger is made, and its log file opened. -/
theorem keeps_openLogger {log : Option Path} {P : World → Prop} (h : LogStable log P)
    (hlog : o.quiet = false → log = settings.file.map Path.ofText) :
    Keeps P (o.openLogger env terminal settings : StateM World _) := by
  rw [openLogger_eq]
  refine .ite (fun _ => .pure _) fun hquiet => ?_
  rw [Bool.not_eq_true] at hquiet
  -- the log file is opened by appending nothing to it
  have hsink : ∀ filter, Keeps P (o.openSink env terminal settings filter) := by
    intro filter
    unfold openSink
    split
    · exact .pure _
    · next file hfile =>
      refine (h.keeps_append (by rw [hlog hquiet, hfile]; rfl) _).bind fun made => ?_
      split
      · exact .pure _
      · exact .pure _
  exact .ite (fun _ => (h.keeps_printError _).bind fun _ => hsink _) fun _ => hsink _

/-- A logger that writes to a file writes to the log file of the settings. -/
theorem answers_openLogger (o : CommonOptions) (env : Environment) (terminal : Bool)
    (settings : LoggingSettings) :
    Answers (fun r => ∀ l p, r = .ok (some l) → l.sink = .file p →
      o.quiet = false ∧ settings.file.map Path.ofText = some p)
    (o.openLogger env terminal settings : StateM World _) := by
  rw [openLogger_eq]
  split
  · exact fun _ => nofun
  · next hquiet =>
    have hsink : ∀ filter, Answers (fun r => ∀ l p, r = .ok (some l) → l.sink = .file p →
        o.quiet = false ∧ settings.file.map Path.ofText = some p)
          (o.openSink env terminal settings filter) := by
      intro filter
      unfold openSink
      split
      · rintro _ _ p ⟨rfl⟩ hfile
        cases hfile
      · next file hfile =>
        refine .bind fun made => ?_
        split
        · rintro _ _ p ⟨rfl⟩ hp
          cases hp
          exact ⟨by simpa using hquiet, by rw [hfile]; rfl⟩
        · exact fun _ => nofun
    dsimp only
    split
    · exact .bind fun _ => hsink _
    · exact hsink _

end CommonOptions

/-! ### Setup -/

namespace Invocation

variable {i : Invocation} {env : Environment} {w : World}

/-- The end of the setup, once there are settings. -/
def prepareWith (i : Invocation) (env : Environment) (terminal : Bool) (path : Path)
    (settings : Settings) : StateM World (Except Failure Setup) := do
  match ← i.common.openLogger env terminal settings.logging with
  | .error e => return .error e
  | .ok logger => return .ok ⟨path, settings, logger⟩

/-- The log file is named by the settings. -/
theorem logFile?_eq (i : Invocation) (env : Environment) (w : World) : i.logFile? env w =
    if i.common.quiet then none
    else (i.settings? env w).bind fun settings => settings.logging.file.map Path.ofText := by
  unfold logFile? settings?
  cases i.settingsPath? env w <;> rfl

/-- The settings are loaded from the configuration file. -/
theorem run_prepare_of_path {path : Path} (h : i.settingsPath? env w = some path)
    (terminal : Bool) : (i.prepare env terminal : StateM World _).run w =
      match ((Settings.load env path : StateM World _).run w).1.2 with
      | .error e => (.error (.loading path e), w)
      | .ok settings => (i.prepareWith env terminal path settings).run w := by
  have hlocate := (onlyLooks_locate env i.common.config).run_eq w
  have hload := (onlyLooks_load env path).run_eq w
  rw [settingsPath?, toOption_eq_some_iff] at h
  rw [h] at hlocate
  rw [prepare, run_bind_of_eq hlocate]
  dsimp only
  rcases hloaded : ((Settings.load env path : StateM World _).run w).1 with ⟨records, e | settings⟩
  · rw [hloaded] at hload
    rw [run_bind_of_eq hload]
    rfl
  · rw [hloaded] at hload
    rw [run_bind_of_eq hload]
    rfl

/-- Without settings the setup fails, and nothing changes. -/
theorem run_prepare_of_settings_none (h : i.settings? env w = none) (terminal : Bool) :
    ∃ e, (i.prepare env terminal : StateM World _).run w = (.error e, w) := by
  rcases hpath : i.settingsPath? env w with - | path
  · have hlocate := (onlyLooks_locate env i.common.config).run_eq w
    rw [settingsPath?, toOption_eq_none_iff] at hpath
    obtain ⟨e, he⟩ := hpath
    rw [he] at hlocate
    rw [prepare, run_bind_of_eq hlocate]
    exact ⟨_, rfl⟩
  · rw [settings?, hpath] at h
    obtain ⟨e, he⟩ := toOption_eq_none_iff.1 h
    rw [run_prepare_of_path hpath, he]
    exact ⟨_, rfl⟩

/-- With settings the setup comes to its end. -/
theorem run_prepare_of_settings {settings : Settings} (h : i.settings? env w = some settings)
    (terminal : Bool) : ∃ path, i.settingsPath? env w = some path ∧
      (i.prepare env terminal : StateM World _).run w =
        (i.prepareWith env terminal path settings).run w := by
  obtain ⟨path, hpath, hsettings⟩ := Option.bind_eq_some_iff.1 h
  refine ⟨path, hpath, ?_⟩
  rw [run_prepare_of_path hpath, toOption_eq_some_iff.1 hsettings]

/-- The setup comes to its end without a change, at the settings that the run starts from, or it
    fails before and there is no log file. -/
theorem run_prepare (i : Invocation) (env : Environment) (terminal : Bool) (w : World) :
    (∃ e, (i.prepare env terminal : StateM World _).run w = (.error e, w) ∧
        i.logFile? env w = none) ∨
      ∃ path settings, i.settingsPath? env w = some path ∧
        (i.common.quiet = false → i.logFile? env w = settings.logging.file.map Path.ofText) ∧
        (i.prepare env terminal : StateM World _).run w =
          (i.prepareWith env terminal path settings).run w := by
  rcases hsettings : i.settings? env w with - | settings
  · obtain ⟨e, hrun⟩ := run_prepare_of_settings_none hsettings terminal
    exact .inl ⟨e, hrun, by simp [logFile?_eq, hsettings]⟩
  · obtain ⟨path, hpath, hrun⟩ := run_prepare_of_settings hsettings terminal
    exact .inr ⟨path, settings, hpath, fun hquiet => by simp [logFile?_eq, hquiet, hsettings], hrun⟩

/-- A run is set up, and its log file opened. -/
theorem keeps_prepare (terminal : Bool) {P : World → Prop} (h : LogStable (i.logFile? env w) P)
    (hw : P w) : P ((i.prepare env terminal : StateM World _).run w).2 := by
  obtain ⟨e, hrun, -⟩ | ⟨path, settings, -, hfile, hrun⟩ := run_prepare i env terminal w
  · rwa [hrun]
  · have hopen : Keeps P
        (i.common.openLogger env terminal settings.logging : StateM World _) :=
      CommonOptions.keeps_openLogger h hfile
    have hwhole : Keeps P (i.prepareWith env terminal path settings) := by
      refine hopen.bind fun logger => ?_
      split
      · exact .pure _
      · exact .pure _
    rw [hrun]
    exact hwhole w hw

/-- The path of the configuration file and the log file are those that the run starts from. -/
theorem setup_of_prepare {terminal : Bool} {s : Setup}
    (h : ((i.prepare env terminal : StateM World _).run w).1 = .ok s) :
    i.settingsPath? env w = some s.path ∧ Logger.WritesTo s.logger (i.logFile? env w) := by
  obtain ⟨e, hrun, -⟩ | ⟨path, settings, hpath, hfile, hrun⟩ := run_prepare i env terminal w
  · rw [hrun] at h
    cases h
  · have hanswer := CommonOptions.answers_openLogger i.common env terminal settings.logging w
    rw [hrun, prepareWith] at h
    rcases hopen : (i.common.openLogger env terminal settings.logging : StateM World _).run w with
      ⟨e | logger, w'⟩
    · rw [run_bind_of_eq hopen] at h
      cases h
    · rw [hopen] at hanswer
      rw [run_bind_of_eq hopen] at h
      cases h
      refine ⟨hpath, fun l p hl hsink => ?_⟩
      obtain ⟨hquiet, hlog⟩ := hanswer l p (congrArg Except.ok hl) hsink
      rw [hfile hquiet, hlog]

end Invocation

end SovdConfig
