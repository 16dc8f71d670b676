import SovdConfig.Proofs.Command.Delivery
import SovdConfig.Proofs.Command.Pairs
import SovdConfig.Proofs.Json.Printing

namespace SovdConfig

/-!
# Diagnostics

What a run is told to log, and how, has no part in what it does.  Main definitions:

* `Invocation.plain`, `Settings.plain` — what is asked for and what is set, without diagnostics;
* `SameButDiagnostics` — two runs that start from the same but for diagnostics.

Main statements:

* `Invocation.runAlike_perform` — the same is done, whatever is logged of it;
* `Settings.exists_print` — the level is the only part of printed settings that depends on it;
* `Program.run_diagnostics` — such runs exit with the same code, print the same and leave the same
  files; and a run that succeeds quietly reports nothing.
-/

/-- The options that have a part in what is done. -/
def CommonOptions.plain (o : CommonOptions) : CommonOptions :=
  { config := o.config, dryRun := o.dryRun }

/-- What is asked for, without options for diagnostics. -/
def Invocation.plain (i : Invocation) : Invocation := { i with common := i.common.plain }

/-- The settings without their log level. -/
def Settings.plain (s : Settings) : Settings := { s with logging.level := default }

/-- Whether a run generates its configuration from a file. -/
def Invocation.ReadsFrom (i : Invocation) (p : Path) : Prop :=
  ∃ g, i.task = .generate g ∧ g.mode = .discovery p

/-- Worlds that agree but for the contents of veiled files, none of which is a source. -/
def SourcesAgree (veiled : Location → Prop) (source : Path → Prop) (w w' : World) : Prop :=
  w.AgreeBut veiled w' ∧ ∀ p, source p → ∀ l, w.disk.entryOf? p = some l → ¬ veiled l

/-- Two runs whose command lines differ in options for diagnostics and whose settings differ in
    their log level, neither of which has a log file.  The worlds in which they start agree but for
    the contents of veiled files, from which neither generates anything. -/
structure SameButDiagnostics (veiled : Location → Prop) (i : Invocation) (env : Environment)
    (w : World) (i' : Invocation) (env' : Environment) (w' : World) : Prop where
  invocation : i'.plain = i.plain
  path : i'.settingsPath? env' w' = i.settingsPath? env w
  settings : (i'.settings? env' w').map Settings.plain = (i.settings? env w).map Settings.plain
  noLogFile : ∀ s, i.settings? env w = some s → s.logging.file = none
  worlds : SourcesAgree veiled i.ReadsFrom w w'

/-! ### Setup -/

/-- Without a log file there is always a logger, or none if the run is quiet; faults in what the
    environment asks for are reported. -/
theorem CommonOptions.run_openLogger_of_noFile {settings : LoggingSettings}
    (h : settings.file = none) (o : CommonOptions) (env : Environment) (terminal : Bool)
    (w : World) : ∃ logger errors,
      (o.openLogger env terminal settings : StateM World _).run w =
        (.ok logger, { w with errors }) := by
  have hsink : ∀ filter, o.openSink env terminal settings filter =
      Pure.pure (.ok (some ⟨filter, .errors (o.isColored env terminal)⟩)) := by
    intro filter
    unfold openSink
    rw [h]
  rw [openLogger_eq]
  split
  · exact ⟨none, w.errors, rfl⟩
  · dsimp only
    rw [hsink]
    split
    · exact ⟨_, _, rfl⟩
    · exact ⟨_, w.errors, rfl⟩

namespace Invocation

variable {i : Invocation} {env : Environment} {w : World} {s : Settings}

/-- Without a log file the setup only reports, and the logger goes to no file. -/
theorem run_prepare_of_noLogFile (h : i.settings? env w = some s) (hfile : s.logging.file = none)
    (terminal : Bool) : ∃ path logger errors, i.settingsPath? env w = some path ∧
      Logger.WritesTo logger none ∧
      (i.prepare env terminal : StateM World _).run w =
        (.ok ⟨path, s, logger⟩, { w with errors }) := by
  obtain ⟨path, hpath, hrun⟩ := run_prepare_of_settings h terminal
  obtain ⟨logger, errors, hopen⟩ :=
    i.common.run_openLogger_of_noFile hfile env terminal w
  have hprepare : (i.prepare env terminal : StateM World _).run w =
      (.ok ⟨path, s, logger⟩, { w with errors }) := by
    rw [hrun, prepareWith, run_bind_of_eq hopen]
    rfl
  have hlogger := (setup_of_prepare (congrArg Prod.fst hprepare)).2
  rw [show i.logFile? env w = none by simp [logFile?_eq, h, hfile]] at hlogger
  exact ⟨path, logger, errors, hpath, hlogger, hprepare⟩

/-- The setup of a quiet run changes nothing and makes no logger. -/
theorem run_prepare_of_quiet (hquiet : i.common.quiet = true) (env : Environment)
    (terminal : Bool) (w : World) :
    (∃ e, (i.prepare env terminal : StateM World _).run w = (.error e, w)) ∨
      ∃ path settings, (i.prepare env terminal : StateM World _).run w =
        (.ok ⟨path, settings, none⟩, w) := by
  obtain ⟨e, hrun, -⟩ | ⟨path, settings, -, -, hrun⟩ := run_prepare i env terminal w
  · exact .inl ⟨e, hrun⟩
  · have hopen : (i.common.openLogger env terminal settings.logging : StateM World _).run w =
        (.ok none, w) := by
      rw [CommonOptions.openLogger_eq, if_pos hquiet]
      rfl
    rw [prepareWith, run_bind_of_eq hopen] at hrun
    exact .inr ⟨path, settings, hrun⟩

end Invocation

/-! ### Tasks -/

section

variable {veiled : Location → Prop}

/-- That sources agree is not up to what has been reported. -/
theorem ignoresReports_sourcesAgree (source : Path → Prop) :
    IgnoresReports (SourcesAgree veiled source) :=
  fun _ _ _ _ h => ⟨World.ignoresReports_agreeBut _ _ _ _ h.1, h.2⟩

namespace RunAlike

variable {logger logger' : Option Logger} (hlogger : Logger.WritesTo logger none)
  (hlogger' : Logger.WritesTo logger' none)

include hlogger hlogger'

/-- The same configuration is generated. -/
theorem configuration (settings : GeneratorSettings) (mode : GenerateMode) :
    RunAlike (SourcesAgree veiled fun p => mode = .discovery p) (World.AgreeBut veiled) Eq
      (mode.configuration (m := StateM World) logger settings)
      (mode.configuration (m := StateM World) logger' settings) := by
  have hreports : IgnoresReports (SourcesAgree veiled fun p => mode = .discovery p) :=
    ignoresReports_sourcesAgree _
  have hclock : Paired veiled Eq (Console.readings : StateM World (Nat → Timestamp))
      Console.readings := fun _ _ hw => ⟨hw, hw.clock.symm⟩
  cases mode with
  | discovery path =>
    refine .bind (Q := Eq) ?_ fun _ _ h => .pure (by rw [h])
    have hload : RunAlike (SourcesAgree veiled fun p => GenerateMode.discovery path = .discovery p)
        (World.AgreeBut veiled) Eq
        (Discovery.load (m := StateM World) path) (Discovery.load path) := by
      intro w w' hw
      refine ⟨hw.1, ?_⟩
      show Discovery.ofFile path (w.disk.read path) = Discovery.ofFile path (w'.disk.read path)
      rw [hw.1.disk.read (hw.2 path rfl)]
    refine (log hreports hlogger hlogger' _ _).bind fun _ _ _ => hload.bind fun d _ hd => ?_
    subst hd
    rcases d with e | d
    · exact .pure rfl
    · refine (log World.ignoresReports_agreeBut hlogger hlogger' _ _).bind fun _ _ _ => ?_
      exact hclock.bind fun _ _ hreadings => .pure (by rw [hreadings])
  | direct identity interface kind =>
    refine RunAlike.of_imp ?_ fun _ _ hw => hw.1
    refine .bind (Q := Eq) ?_ fun _ _ h => .pure (by rw [h])
    refine (log World.ignoresReports_agreeBut hlogger hlogger' _ _).bind fun _ _ _ => ?_
    exact hclock.bind fun _ _ hreadings => .pure (by rw [hreadings])
  | usage => exact (RunAlike.pure rfl).of_imp fun _ _ hw => hw.1

end RunAlike

/-- Two setups with the same path and the same generator settings, whose loggers go to no file. -/
structure Setup.Like (s s' : Setup) : Prop where
  path : s'.path = s.path
  generator : s'.settings.generator = s.settings.generator
  logger : Logger.WritesTo s.logger none
  logger' : Logger.WritesTo s'.logger none

namespace Setup.Like

variable {s s' : Setup} (h : s.Like s') {o o' : CommonOptions} (hdry : o'.dryRun = o.dryRun)

include h

/-- Records are logged. -/
theorem log {R : World → World → Prop} (hR : IgnoresReports R) (level level' : LogLevel)
    (message message' : String) : RunAlike R R (fun _ _ => True)
      (s.log (m := StateM World) level message) (s'.log level' message') :=
  RunAlike.log hR h.logger h.logger' _ _

include hdry

/-- The same documents are written, or both runs only say so. -/
theorem writeDocuments (d : Documents) (path : Path) : Paired veiled Eq
    (s.writeDocuments (m := StateM World) o d path) (s'.writeDocuments o' d path) := by
  have hR : IgnoresReports (World.AgreeBut veiled) := World.ignoresReports_agreeBut
  unfold Setup.writeDocuments
  rw [hdry]
  refine .ite (fun _ => ?_) fun _ => RunAlike.writeAll o.quiet o'.quiet _
  refine (h.log hR _ _ _ _).bind fun _ _ _ => ?_
  exact .ite (fun _ => (h.log hR _ _ _ _).bind fun _ _ _ => .pure rfl) fun _ => .pure rfl

/-- The same documents are generated and delivered. -/
theorem generate (g : GenerateOptions) :
    RunAlike (SourcesAgree veiled fun p => g.mode = .discovery p) (World.AgreeBut veiled) Eq
      (s.generate (m := StateM World) o g) (s'.generate o' g) := by
  unfold Setup.generate
  rw [h.generator]
  refine (RunAlike.configuration h.logger h.logger' s.settings.generator g.mode).bind
    fun r _ hr => ?_
  subst hr
  rcases r with e | - | configuration
  · exact .pure rfl
  · -- what is reported is not compared
    have hreport : ∀ text, OnlyReports (Console.printError text : StateM World Unit) :=
      fun text w => ⟨_, rfl⟩
    exact (RunAlike.of_reports World.ignoresReports_agreeBut (hreport _) (hreport _)).bind
      fun _ _ _ => .pure rfl
  · dsimp only
    rcases g.output with - | path
    · exact (RunAlike.print _).bind fun _ _ _ => .pure rfl
    · exact (h.writeDocuments hdry _ path).bind fun _ _ hr => .pure (by rw [hr])

/-- The same configuration file is made. -/
theorem createSettings (force : Bool) : Paired veiled Eq
    (s.createSettings (m := StateM World) o force) (s'.createSettings o' force) := by
  have hR : IgnoresReports (World.AgreeBut veiled) := World.ignoresReports_agreeBut
  unfold Setup.createSettings
  rw [h.path, hdry]
  refine (RunAlike.doesExist s.path).bind fun isThere _ hthere => ?_
  subst hthere
  refine .ite (fun _ => .pure rfl) fun _ => .ite (fun _ => ?_) fun _ => ?_
  · exact (h.log hR _ _ _ _).bind fun _ _ _ => .pure rfl
  · refine (RunAlike.writeDefault s.path).bind fun written _ hwritten => ?_
    subst hwritten
    rcases written with e | ⟨⟩
    · exact .pure rfl
    · exact RunAlike.report hR (.pure rfl) (!o.quiet) (!o'.quiet) _ _

end Setup.Like

/-- The same text is displayed. -/
theorem RunAlike.display (text : String) : Paired veiled Eq
    (Setup.display (m := StateM World) text) (Setup.display text) :=
  (RunAlike.print text).bind fun _ _ _ => .pure rfl

/-- The same is done for two invocations that differ in diagnostics, unless it is the settings that
    are shown. -/
theorem Invocation.runAlike_perform {i i' : Invocation} (hplain : i'.plain = i.plain)
    (hshow : i.task ≠ .showSettings) {s s' : Setup} (h : s.Like s') :
    RunAlike (SourcesAgree veiled i.ReadsFrom) (World.AgreeBut veiled) Eq
      (i.perform (m := StateM World) s) (i'.perform s') := by
  have htask : i'.task = i.task :=
    show i'.plain.task = i.plain.task by rw [hplain]
  have hdry : i'.common.dryRun = i.common.dryRun :=
    show i'.plain.common.dryRun = i.plain.common.dryRun by rw [hplain]
  unfold perform
  rw [htask]
  refine (h.log (ignoresReports_sourcesAgree i.ReadsFrom) _ _ _ _).bind fun _ _ _ => ?_
  rcases hcase : i.task with g | - | - | - | force | shell
  · exact (h.generate hdry g).of_imp fun _ _ hw => ⟨hw.1, fun p hp => hw.2 p ⟨g, hcase, hp⟩⟩
  · exact absurd hcase hshow
  · rw [h.path]
    exact (RunAlike.display _).of_imp fun _ _ hw => hw.1
  · exact (RunAlike.display _).of_imp fun _ _ hw => hw.1
  · refine RunAlike.of_imp ?_ fun _ _ hw => hw.1
    exact (h.createSettings hdry force).bind fun _ _ hr => .pure (by rw [hr])
  · exact (RunAlike.display _).of_imp fun _ _ hw => hw.1

end

/-! ### Settings that are shown -/

/-- A text in a line that stands between others is in one place of the lines. -/
theorem Json.exists_stack {before after : List String} (hbefore : before ≠ []) (hafter : after ≠ [])
    (front : String) : ∃ first last, ∀ text, String.ofList
      (stack [] (before ++ (front ++ text) :: after)) = first ++ text ++ last := by
  refine ⟨String.ofList (stack [] before ++ '\n' :: front.toList),
    String.ofList ('\n' :: stack [] after), fun text => ?_⟩
  rw [stack_append hbefore (by simp), stack_cons _ hafter, String.ext_iff]
  simp

/-- Where settings without a log file are printed, nothing but the name of the level depends on the
    level. -/
theorem Settings.exists_print {s : Settings} (h : s.logging.file = none) :
    ∃ before after, ∀ level,
      Json.print ({ s with logging.level := level } : Settings).toJson =
        before ++ Json.quote level.name ++ after := by
  obtain ⟨schema, ⟨_, file⟩, generator⟩ := s
  obtain rfl : file = none := h
  let logging : String := "  " ++ (Json.quote "logging" ++ ": " ++ "\x7b")
  let level : String := "  " ++ ("  " ++ (Json.quote "level" ++ ": "))
  let rest : List String := ("  " ++ "\x7d" ++ ",") :: (Json.joinEntries
    [Json.prepend (Json.quote "generator" ++ ": ") (Json.printLines generator.toJson)] ++ ["\x7d"])
  -- the level stands in a line of its own, also if there is a line for the schema
  have hlines : ∃ before, before ≠ [] ∧ ∀ l : LogLevel,
      Json.printLines (⟨schema, ⟨l, none⟩, generator⟩ : Settings).toJson =
        before ++ (level ++ Json.quote l.name) :: rest := by
    rcases schema with - | schema
    · refine ⟨["\x7b", logging], by simp, fun l => ?_⟩
      simp only [toJson, LoggingSettings.toJson, Option.map_none, Option.toList_none,
        List.append_nil, List.nil_append, Json.printLines, Json.printMembers, Json.joinEntries,
        Json.prepend, Json.append, List.map_cons, List.map_nil, List.cons_append, Json.scalarText,
        String.append_assoc, logging, level, rest]
    · refine ⟨["\x7b", "  " ++ (Json.quote "$schema" ++ ": " ++ Json.quote schema ++ ","), logging],
        by simp, fun l => ?_⟩
      simp only [toJson, LoggingSettings.toJson, Option.map_none, Option.toList_none,
        Option.map_some, Option.toList_some, List.append_nil, List.nil_append, Json.printLines,
        Json.printMembers, Json.joinEntries, Json.prepend, Json.append, List.map_cons,
        List.map_nil, List.cons_append, Json.scalarText, String.append_assoc, logging, level, rest]
  obtain ⟨before, hbefore, hlines⟩ := hlines
  have hrest : rest ≠ [] := List.cons_ne_nil _ _
  obtain ⟨first, last, hstack⟩ := Json.exists_stack hbefore hrest level
  refine ⟨first, last, fun l => ?_⟩
  rw [← hstack, ← hlines, Json.print, String.ext_iff]
  simp [Json.stack, String.toList_intercalate]

/-- Settings that are the same without their levels differ in nothing else. -/
theorem Settings.eq_of_plain {s s' : Settings} (h : s'.plain = s.plain) :
    s' = { s with logging.level := s'.logging.level } := by
  obtain ⟨schema, ⟨level, file⟩, generator⟩ := s
  obtain ⟨schema', ⟨level', file'⟩, generator'⟩ := s'
  simp only [plain, mk.injEq, LoggingSettings.mk.injEq, true_and] at h
  obtain ⟨rfl, rfl, rfl⟩ := h
  rfl

/-- The settings are printed. -/
theorem Invocation.run_perform_of_showSettings {i : Invocation} (htask : i.task = .showSettings)
    {s : Setup} (hlogger : Logger.WritesTo s.logger none) (w : World) :
    ∃ errors, (i.perform s : StateM World _).run w = (.ok .success,
      { w with output := w.output ++ (Json.print s.settings.toJson ++ "\n"), errors }) := by
  obtain ⟨errors, hend⟩ := Logger.onlyReports_log hlogger
    (programRecord .debug ("resolved paths: config: " ++ s.path.display)) w
  have hlog : (s.log .debug ("resolved paths: config: " ++ s.path.display) :
      StateM World Unit).run w = ((), { w with errors }) := Prod.ext rfl hend
  rw [perform, htask, run_bind_of_eq hlog]
  exact ⟨errors, rfl⟩

/-- Two invocations that differ in diagnostics end alike.  They print the same, unless it is the
    settings that are printed, with their levels. -/
theorem Invocation.perform_alike {veiled : Location → Prop} {i i' : Invocation}
    (hinvocation : i'.plain = i.plain) {s s' : Setup} (hlike : s.Like s')
    (hsettings : s'.settings.plain = s.settings.plain) (hfile : s.settings.logging.file = none)
    {w w' w₁ w₁' : World} (hworlds : SourcesAgree veiled i.ReadsFrom w w')
    {r r' : Except Failure ExitCode} (h : (i.perform s : StateM World _).run w = (r, w₁))
    (h' : (i'.perform s' : StateM World _).run w' = (r', w₁')) :
    r = r' ∧ w₁.disk.AgreeBut veiled w₁'.disk ∧
      (w₁'.output = w₁.output ∨ i.task = .showSettings ∧ ∃ before after,
        w₁.output = before ++ Json.quote s.settings.logging.level.name ++ after ∧
        w₁'.output = before ++ Json.quote s'.settings.logging.level.name ++ after) := by
  by_cases hshow : i.task = .showSettings
  -- the records before the settings are reported, and so not compared
  · have hshow' : i'.task = .showSettings :=
      (show i'.plain.task = i.plain.task by rw [hinvocation]).trans hshow
    obtain ⟨before, after, hprint⟩ := Settings.exists_print hfile
    obtain ⟨errors, hperform⟩ := run_perform_of_showSettings hshow hlike.logger w
    obtain ⟨errors', hperform'⟩ := run_perform_of_showSettings hshow' hlike.logger' w'
    obtain ⟨rfl, rfl⟩ := Prod.mk.inj (hperform.symm.trans h)
    obtain ⟨rfl, rfl⟩ := Prod.mk.inj (hperform'.symm.trans h')
    have hlevel := hprint s.settings.logging.level
    have hlevel' := hprint s'.settings.logging.level
    rw [← Settings.eq_of_plain hsettings] at hlevel'
    refine ⟨rfl, hworlds.1.disk, .inr ⟨hshow, w.output ++ before, after ++ "\n", ?_, ?_⟩⟩
    · simp only [hlevel, String.append_assoc]
    · simp only [hworlds.1.output, hlevel', String.append_assoc]
  · obtain ⟨hend, hanswer⟩ := runAlike_perform hinvocation hshow hlike _ _ hworlds
    rw [h, h'] at hend hanswer
    exact ⟨hanswer, hend.disk, .inl hend.output⟩

/-! ### Quiet runs -/

/-- Without a logger a configuration is generated by looking. -/
theorem GenerateMode.onlyLooks_configuration (settings : GeneratorSettings) (mode : GenerateMode) :
    OnlyLooks (mode.configuration (m := StateM World) none settings) := by
  have hlog : ∀ r, OnlyLooks (Logger.log none r : StateM World Unit) := fun _ _ => rfl
  have hclock : OnlyLooks (Console.readings : StateM World (Nat → Timestamp)) := fun _ => rfl
  cases mode with
  | discovery path =>
    have hload : OnlyLooks (Discovery.load (m := StateM World) path) := fun _ => rfl
    refine .bind ((hlog _).bind fun _ => hload.bind fun d => ?_) fun _ => .pure _
    rcases d with e | d
    · exact .pure _
    · exact (hlog _).bind fun _ => hclock.bind fun _ => .pure _
  | direct identity interface kind =>
    exact ((hlog _).bind fun _ => hclock.bind fun _ => .pure _).bind fun _ => .pure _
  | usage => exact .pure _

namespace Setup

variable {s : Setup} {o : CommonOptions} {w w' : World} (hlogger : s.logger = none)
  (hquiet : o.quiet = true)

include hlogger

/-- Without a logger nothing is logged. -/
theorem onlyLooks_log (level : LogLevel) (message : String) :
    OnlyLooks (s.log level message : StateM World Unit) := by
  unfold log
  rw [hlogger]
  exact fun _ => rfl

include hquiet

/-- Documents are delivered quietly. -/
theorem errors_of_deliver (d : Documents) (output : Option Path) (w : World) :
    ((s.deliver o d output : StateM World _).run w).2.errors = w.errors := by
  rcases output with - | path
  · rfl
  · have hwrite : Keeps (fun w' : World => w'.errors = w.errors)
        (s.writeDocuments o d path : StateM World _) := by
      have hlog := fun level message => (onlyLooks_log hlogger level message).keeps
        (P := fun w' : World => w'.errors = w.errors)
      refine .ite (fun _ => ?_) fun _ => ?_
      · refine (hlog _ _).bind fun _ => ?_
        exact .ite (fun _ => (hlog _ _).bind fun _ => .pure _) fun _ => .pure _
      · intro w' hw'
        rw [hquiet, d.errors_of_write, hw']
    exact hwrite.bind (fun _ => .pure _) w rfl

/-- A run that generates something and succeeds has reported nothing. -/
theorem errors_of_generate {g : GenerateOptions}
    (h : (s.generate o g : StateM World _).run w = (.ok .success, w')) :
    w'.errors = w.errors := by
  have hlooks := (GenerateMode.onlyLooks_configuration s.settings.generator g.mode).run_eq w
  rw [← hlogger] at hlooks
  rcases hresult : ((g.mode.configuration s.logger s.settings.generator :
    StateM World _).run w).1 with e | - | configuration
  · rw [hresult] at hlooks
    rw [generate, run_bind_of_eq hlooks] at h
    cases h
  · rw [hresult] at hlooks
    rw [generate, run_bind_of_eq hlooks] at h
    cases h
  · rw [hresult] at hlooks
    rw [run_generate_of_configuration hlooks] at h
    rw [← errors_of_deliver hlogger hquiet ⟨configuration, g.definitions⟩ g.output w, h]

/-- A configuration file is made quietly. -/
theorem errors_of_createSettings (force : Bool) (w : World) :
    ((s.createSettings o force : StateM World _).run w).2.errors = w.errors := by
  have hkeeps : Keeps (fun w' : World => w'.errors = w.errors)
      (s.createSettings o force : StateM World _) := by
    have hthere : OnlyLooks (Disk.doesExist s.path : StateM World Bool) := fun _ => rfl
    have hwrite : Keeps (fun w' : World => w'.errors = w.errors)
        (Settings.writeDefault s.path : StateM World _) := by
      intro w' hw'
      rw [World.run_writeDefault]
      exact hw'
    refine hthere.keeps.bind fun isThere => .ite (fun _ => .pure _) fun _ => .ite (fun _ => ?_)
      fun _ => hwrite.bind fun r => ?_
    · exact (onlyLooks_log hlogger _ _).keeps.bind fun _ => .pure _
    · rcases r with e | ⟨⟩
      · exact .pure _
      · exact .ite (fun hloud => absurd hloud (by simp [hquiet])) fun _ => .pure _
  exact hkeeps w rfl

end Setup

/-- What is done quietly and succeeds reports nothing. -/
theorem Invocation.errors_of_perform {i : Invocation} {s : Setup} {w w' : World}
    (hquiet : i.common.quiet = true) (hlogger : s.logger = none)
    (h : (i.perform s : StateM World _).run w = (.ok .success, w')) : w'.errors = w.errors := by
  have hlog := (Setup.onlyLooks_log hlogger .debug
    ("resolved paths: config: " ++ s.path.display)).run_eq w
  have hdisplay : ∀ text, (Setup.display text : StateM World _).run w = (.ok .success, w') →
      w'.errors = w.errors := by
    rintro text ⟨⟩
    rfl
  rw [perform, run_bind_of_eq hlog] at h
  split at h
  · exact Setup.errors_of_generate hlogger hquiet h
  · exact hdisplay _ h
  · exact hdisplay _ h
  · exact hdisplay _ h
  · next force _ =>
    have herrors := Setup.errors_of_createSettings hlogger hquiet force w
    rw [run_bind_of_eq (Prod.eta _).symm] at h
    rw [← herrors]
    exact congrArg (fun r => World.errors r.2) h.symm
  · exact hdisplay _ h

/-! ### Runs -/

/-- Runs that start from the same are the same but for diagnostics if their command lines are, and
    if there is no log file. -/
theorem SameButDiagnostics.of_plain {i i' : Invocation} {env : Environment} {w : World}
    (h : i'.plain = i.plain) (hfile : ∀ s, i.settings? env w = some s → s.logging.file = none) :
    SameButDiagnostics (fun _ => False) i env w i' env w := by
  have hconfig : i'.common.config = i.common.config :=
    show i'.plain.common.config = i.plain.common.config by rw [h]
  have hpath : i'.settingsPath? env w = i.settingsPath? env w := by
    rw [Invocation.settingsPath?, hconfig]
    rfl
  have hsettings : i'.settings? env w = i.settings? env w := by
    rw [Invocation.settings?, hpath]
    rfl
  have hworlds : w.AgreeBut (fun _ => False) w := ⟨.refl fun _ => False.elim, rfl, rfl⟩
  exact ⟨h, hpath, by rw [hsettings], hfile, hworlds, fun _ _ _ _ => id⟩

/-- Where the files are the same at the start, nothing need be veiled. -/
theorem SameButDiagnostics.unveiled {veiled : Location → Prop} {i i' : Invocation}
    {env env' : Environment} {w w' : World} (h : SameButDiagnostics veiled i env w i' env' w')
    (hdisk : w'.disk = w.disk) : SameButDiagnostics (fun _ => False) i env w i' env' w' where
  invocation := h.invocation
  path := h.path
  settings := h.settings
  noLogFile := h.noLogFile
  worlds := by
    refine ⟨⟨?_, h.worlds.1.output, h.worlds.1.clock⟩, fun _ _ _ _ => id⟩
    rw [hdisk]
    exact .refl fun _ => nofun

/-- Runs that are the same but for diagnostics both fail to be set up, or are set up alike. -/
theorem SameButDiagnostics.run_prepare {veiled : Location → Prop} {i i' : Invocation}
    {env env' : Environment} {w w' : World} (h : SameButDiagnostics veiled i env w i' env' w')
    (terminal terminal' : Bool) :
    (∃ e e', (i.prepare env terminal : StateM World _).run w = (.error e, w) ∧
        (i'.prepare env' terminal' : StateM World _).run w' = (.error e', w')) ∨
      ∃ s s' errors errors', s.Like s' ∧ s'.settings.plain = s.settings.plain ∧
        i.settings? env w = some s.settings ∧ i'.settings? env' w' = some s'.settings ∧
        (i.prepare env terminal : StateM World _).run w = (.ok s, { w with errors }) ∧
        (i'.prepare env' terminal' : StateM World _).run w' =
          (.ok s', { w' with errors := errors' }) := by
  rcases hs : i.settings? env w with - | s
  · have hs' : i'.settings? env' w' = none := by simpa [hs] using h.settings
    obtain ⟨e, hrun⟩ := Invocation.run_prepare_of_settings_none hs terminal
    obtain ⟨e', hrun'⟩ := Invocation.run_prepare_of_settings_none hs' terminal'
    exact .inl ⟨e, e', hrun, hrun'⟩
  · have hsome := h.settings
    rw [hs, Option.map_some, Option.map_eq_some_iff] at hsome
    obtain ⟨s', hs', hplain⟩ := hsome
    have hfile := h.noLogFile s hs
    have hfile' : s'.logging.file = none :=
      (congrArg (fun s => s.logging.file) hplain :
        s'.plain.logging.file = s.plain.logging.file) ▸ hfile
    -- there is no log file that could be refused to either of them
    obtain ⟨path, logger, errors, hpath, hlogger, hrun⟩ :=
      Invocation.run_prepare_of_noLogFile hs hfile terminal
    obtain ⟨path', logger', errors', hpath', hlogger', hrun'⟩ :=
      Invocation.run_prepare_of_noLogFile hs' hfile' terminal'
    have hpaths : path' = path := by
      have heq := h.path
      rw [hpath, hpath'] at heq
      exact Option.some.inj heq
    have hgenerator : s'.generator = s.generator := by
      have heq := congrArg (fun s => s.generator) hplain
      exact heq
    exact .inr ⟨_, _, errors, errors', ⟨hpaths, hgenerator, hlogger, hlogger'⟩, hplain, rfl, hs',
      hrun, hrun'⟩

namespace Program

/-- Runs that are the same but for diagnostics exit with the same code and leave the same files.
    They print the same, unless it is their settings that they print, with their levels. -/
theorem run_alike {veiled : Location → Prop} {words words' : List Bytes} {i i' : Invocation}
    {env env' : Environment} {terminal terminal' : Bool} {w w' w₁ w₁' : World}
    {code code' : ExitCode} (hwords : Invocation.ofWords words = .ok i)
    (hwords' : Invocation.ofWords words' = .ok i')
    (h : SameButDiagnostics veiled i env w i' env' w')
    (hrun : (run env terminal words : StateM World _).run w = (code, w₁))
    (hrun' : (run env' terminal' words' : StateM World _).run w' = (code', w₁')) :
    code' = code ∧ w₁.disk.AgreeBut veiled w₁'.disk ∧
      (w₁'.output = w₁.output ∨ i.task = .showSettings ∧ ∃ s s' before after,
        i.settings? env w = some s ∧ i'.settings? env' w' = some s' ∧
        w₁.output = before ++ Json.quote s.logging.level.name ++ after ∧
        w₁'.output = before ++ Json.quote s'.logging.level.name ++ after) := by
  rw [run_of_ofWords hwords, Invocation.execute] at hrun
  rw [run_of_ofWords hwords', Invocation.execute] at hrun'
  obtain ⟨e, e', hprepare, hprepare'⟩ |
    ⟨s, s', errors, errors', hlike, hplain, hs, hs', hprepare, hprepare'⟩ :=
      h.run_prepare terminal terminal'
  · rw [run_bind_of_eq hprepare] at hrun
    rw [run_bind_of_eq hprepare'] at hrun'
    cases hrun
    cases hrun'
    exact ⟨rfl, h.worlds.1.disk, .inl h.worlds.1.output⟩
  · rw [run_bind_of_eq hprepare] at hrun
    rw [run_bind_of_eq hprepare'] at hrun'
    dsimp only at hrun hrun'
    have hworlds :
        SourcesAgree veiled i.ReadsFrom { w with errors } { w' with errors := errors' } :=
      ignoresReports_sourcesAgree _ _ _ _ _ h.worlds
    rcases hperform : (i.perform s : StateM World _).run { w with errors } with ⟨r, w₂⟩
    rcases hperform' : (i'.perform s' : StateM World _).run { w' with errors := errors' } with
      ⟨r', w₂'⟩
    obtain ⟨rfl, hdisk, houtput⟩ := Invocation.perform_alike h.invocation hlike hplain
      (h.noLogFile _ hs) hworlds hperform hperform'
    rw [hperform] at hrun
    rw [hperform'] at hrun'
    -- a failure is reported then, which changes neither what is printed nor the files
    have hend : code' = code ∧ w₁.disk = w₂.disk ∧ w₁.output = w₂.output ∧
        w₁'.disk = w₂'.disk ∧ w₁'.output = w₂'.output := by
      rcases r with e | code₂
      · cases hrun
        cases hrun'
        exact ⟨rfl, rfl, rfl, rfl, rfl⟩
      · cases hrun
        cases hrun'
        exact ⟨rfl, rfl, rfl, rfl, rfl⟩
    obtain ⟨rfl, hdisk₁, houtput₁, hdisk₁', houtput₁'⟩ := hend
    rw [hdisk₁, houtput₁, hdisk₁', houtput₁']
    refine ⟨rfl, hdisk, houtput.imp_right ?_⟩
    rintro ⟨hshow, before, after, hprinted, hprinted'⟩
    exact ⟨hshow, _, _, before, after, hs, hs', hprinted, hprinted'⟩

/-- A run that succeeds quietly reports nothing. -/
theorem errors_of_quiet {words : List Bytes} {i : Invocation} {env : Environment} {terminal : Bool}
    {w w' : World} (hwords : Invocation.ofWords words = .ok i) (hquiet : i.common.quiet = true)
    (h : (run env terminal words : StateM World _).run w = (.success, w')) :
    w'.errors = w.errors := by
  rw [run_of_ofWords hwords, Invocation.execute] at h
  obtain ⟨e, hprepare⟩ | ⟨path, settings, hprepare⟩ :=
    Invocation.run_prepare_of_quiet hquiet env terminal w
  · rw [run_bind_of_eq hprepare] at h
    cases h
  · rw [run_bind_of_eq hprepare] at h
    dsimp only at h
    split at h
    · next code w₁ hperform =>
      cases h
      exact Invocation.errors_of_perform hquiet rfl hperform
    · cases h

/-- Diagnostics have no part in what a run does.  First, two runs that are the same but for
    diagnostics exit with the same code and leave the same files, but for the contents of those that
    differ from the start.  They print the same; only where they print their settings, the levels in
    them may differ.  Second, two runs are the same but for diagnostics if they start from the same,
    without a log file, and their command lines differ only in options for diagnostics.  Third, a
    run that is quiet and succeeds reports nothing. -/
theorem run_diagnostics :
    (∀ {veiled : Location → Prop} {words words' : List Bytes} {i i' : Invocation}
        {env env' : Environment} {terminal terminal' : Bool} {w w' w₁ w₁' : World}
        {code code' : ExitCode},
      Invocation.ofWords words = .ok i → Invocation.ofWords words' = .ok i' →
      SameButDiagnostics veiled i env w i' env' w' →
      (run env terminal words : StateM World _).run w = (code, w₁) →
      (run env' terminal' words' : StateM World _).run w' = (code', w₁') →
        code' = code ∧ w₁.disk.AgreeBut veiled w₁'.disk ∧
        (w'.disk = w.disk → w₁'.disk = w₁.disk) ∧
        (w₁'.output = w₁.output ∨ i.task = .showSettings ∧ ∃ s s' before after,
          i.settings? env w = some s ∧ i'.settings? env' w' = some s' ∧
          w₁.output = before ++ Json.quote s.logging.level.name ++ after ∧
          w₁'.output = before ++ Json.quote s'.logging.level.name ++ after)) ∧
    (∀ {i i' : Invocation} {env : Environment} {w : World}, i'.plain = i.plain →
      (∀ s, i.settings? env w = some s → s.logging.file = none) →
      SameButDiagnostics (fun _ => False) i env w i' env w) ∧
    ∀ {words : List Bytes} {i : Invocation} {env : Environment} {terminal : Bool} {w w₁ : World},
      Invocation.ofWords words = .ok i → i.common.quiet = true →
      (run env terminal words : StateM World _).run w = (.success, w₁) → w₁.errors = w.errors := by
  refine ⟨fun hwords hwords' h hrun hrun' => ?_, SameButDiagnostics.of_plain, errors_of_quiet⟩
  obtain ⟨hcode, hdisk, houtput⟩ := run_alike hwords hwords' h hrun hrun'
  refine ⟨hcode, hdisk, fun hsame => ?_, houtput⟩
  -- nothing need be veiled where the files are the same at the start
  have hagree := h.unveiled hsame
  exact (run_alike hwords hwords' hagree hrun hrun').2.1.eq.symm

/-- For one, a quiet run and one that logs in color, with another level in the configuration
    file. -/
theorem run_diagnostics_level :
    let quiet := ["-q", "--config", "c.toml", "-n", "x", "-t", "0x1", "-r", "0x2", "-o",
      "x.toml"].map Text.encodeUtf8
    let loud := ["-v", "--color", "always", "--config", "c.toml", "-n", "x", "-t", "0x1", "-r",
      "0x2", "-o", "x.toml"].map Text.encodeUtf8
    let disk (level : String) : FileTree := ⟨[], [([Text.encodeUtf8 "c.toml"],
      .file (Text.encodeUtf8 ("[logging]\nlevel = \"" ++ level ++ "\"\n")))]⟩
    ∃ w₁ w₁', (run {} false quiet : StateM World _).run { disk := disk "error" } = (.success, w₁) ∧
      (run {} true loud : StateM World _).run { disk := disk "trace" } = (.success, w₁') ∧
      w₁'.output = w₁.output ∧ w₁.errors = "" ∧
      w₁'.disk.node? [Text.encodeUtf8 "x.toml"] = w₁.disk.node? [Text.encodeUtf8 "x.toml"] := by
  intro quiet loud disk
  let g : GenerateOptions :=
    { name := some "x", txId := some "0x1", rxId := some "0x2", output := some (.ofText "x.toml") }
  let i : Invocation := ⟨{ config := some (.ofText "c.toml"), quiet := true }, .generate g⟩
  let i' : Invocation :=
    ⟨{ config := some (.ofText "c.toml"), verbosity := 1, color := "always" }, .generate g⟩
  let veiled : Location → Prop := (· = [Text.encodeUtf8 "c.toml"])
  have hquiet : Invocation.ofWords quiet = .ok i := by rfl
  have hloud : Invocation.ofWords loud = .ok i' := by rfl
  have hsettings : i.settings? {} { disk := disk "error" } =
      some { logging := { level := .error } } := by decide +kernel
  have hsettings' : i'.settings? {} { disk := disk "trace" } =
      some { logging := { level := .trace } } := by decide +kernel
  have hworlds : World.AgreeBut veiled { disk := disk "error" } { disk := disk "trace" } := by
    refine ⟨⟨rfl, .cons ⟨rfl, .file _ _ rfl⟩ .nil, ?_⟩, rfl, rfl⟩
    rintro l rfl
    decide +kernel
  have hsame : SameButDiagnostics veiled i {} { disk := disk "error" } i' {}
      { disk := disk "trace" } := by
    refine ⟨rfl, by decide +kernel, by rw [hsettings, hsettings']; rfl, ?_, hworlds, ?_⟩
    · rw [hsettings]
      rintro _ ⟨⟩
      rfl
    · rintro p ⟨_, ⟨⟩, hmode⟩
      have hdirect : g.mode = .direct (.ofName "x" "0x1" "0x2") none .isotp := by decide +kernel
      rw [hdirect] at hmode
      cases hmode
  have hcode : ((run {} false quiet : StateM World _).run { disk := disk "error" }).1 =
      .success := by decide +kernel
  rcases hrun : (run {} false quiet : StateM World _).run { disk := disk "error" } with ⟨code, w₁⟩
  rcases hrun' : (run {} true loud : StateM World _).run { disk := disk "trace" } with ⟨code', w₁'⟩
  rw [hrun] at hcode
  obtain rfl : code = .success := hcode
  obtain ⟨rfl, hdisk, -, houtput | ⟨⟨⟩, -⟩⟩ :=
    run_diagnostics.1 hquiet hloud hsame hrun hrun'
  exact ⟨w₁, w₁', rfl, rfl, houtput, run_diagnostics.2.2 hquiet rfl hrun,
    hdisk.node?_eq (by decide)⟩

end Program

end SovdConfig
