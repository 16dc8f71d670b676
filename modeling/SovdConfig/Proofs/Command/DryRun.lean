import SovdConfig.Proofs.Command.Logging
import SovdConfig.Proofs.Command.Switches
import SovdConfig.Proofs.Disk.Current

namespace SovdConfig

/-!
# Dry runs

What a run changes that is only to say what it would do.  Main definitions:

* `FileTree.Logged` — a tree with more in its log file, which is made if it is missing;
* `FileTree.Refuses` — a tree in which the log file cannot be opened.

Main statement: `Program.disk_run_dry`, such a run opens its log file and may append to it; it
changes nothing else, and nothing at all if there is no log file or if that cannot be opened.
-/

/-! ### The log file -/

namespace FileTree

/-- A file that is put over another one takes its place. -/
theorem put_put (t : FileTree) (l : Location) (node node' : Node) :
    (t.put l node).put l node' = t.put l node' := by
  simp [put, List.filter_filter]

/-- What is appended to a file after something else goes behind that. -/
theorem appendTo_append {t t' : FileTree} {p : Path} {first : Bytes}
    (h : t.appendTo p first = .ok t') (more : Bytes) :
    t'.appendTo p more = t.appendTo p (first ++ more) := by
  obtain ⟨l, old, hopen, rfl⟩ := exists_put_of_appendTo h
  have hslash := (openForWriting_ok hopen).2.2
  have hopen' : (t.put l (.file (old ++ first))).openForWriting p = .ok (l, old ++ first) := by
    rw [openForWriting, resolve_put hopen]
    simp [hslash, bind, Except.bind]
  rw [appendTo, appendTo, hopen, hopen']
  simp [bind, Except.bind, put_put, pure, Except.pure]

/-- Whether a tree is another one with more in its log file, if there is one. -/
def Logged (log : Option Path) (t t' : FileTree) : Prop :=
  match log with
  | none => t' = t
  | some p => ∃ more, t.appendTo p more = .ok t'

/-- What is appended to the log file leaves a log file with more in it. -/
theorem Logged.append {log : Option Path} {t t₁ t₂ : FileTree} {p : Path} {more : Bytes}
    (h : Logged log t t₁) (hlog : log = some p) (happend : t₁.appendTo p more = .ok t₂) :
    Logged log t t₂ := by
  subst hlog
  obtain ⟨first, hfirst⟩ := h
  exact ⟨first ++ more, by rw [← appendTo_append hfirst, happend]⟩

/-- The log file has what it held before, and more. -/
theorem Logged.exists_node? {t t' : FileTree} {p : Path} {l : Location} {old : Bytes}
    (h : Logged (some p) t t') (hopen : t.openForWriting p = .ok (l, old)) :
    ∃ more, t'.node? l = some (.file (old ++ more)) := by
  obtain ⟨more, happend⟩ := h
  obtain ⟨l', old', hopen', rfl⟩ := exists_put_of_appendTo happend
  obtain ⟨rfl, rfl⟩ := Prod.mk.inj (Except.ok.inj (hopen.symm.trans hopen'))
  refine ⟨more, ?_⟩
  rw [node?_put t (ne_nil_of_node? (openForWriting_ok hopen).2.1), if_pos rfl]

/-- Whether there is a log file that cannot be opened. -/
def Refuses (t : FileTree) (log : Option Path) : Prop :=
  ∃ p e, log = some p ∧ t.openForWriting p = .error e

/-- A log file that has been opened is not one that cannot be. -/
theorem Logged.not_refuses {log : Option Path} {t t' : FileTree} (h : Logged log t t') :
    ¬ Refuses t log := by
  rintro ⟨p, e, rfl, hrefused⟩
  obtain ⟨more, happend⟩ := h
  obtain ⟨l, old, hopen, -⟩ := exists_put_of_appendTo happend
  rw [hopen] at hrefused
  cases hrefused

/-- Nothing can be appended to a file that cannot be opened. -/
theorem openForWriting_error_of_appendTo {t : FileTree} {p : Path} {more : Bytes} {e : DiskFault}
    (h : t.appendTo p more = .error e) : t.openForWriting p = .error e := by
  rw [appendTo] at h
  rcases hopen : t.openForWriting p with e' | ⟨l, old⟩
  · rw [hopen] at h
    cases h
    rfl
  · rw [hopen] at h
    cases h

end FileTree

open FileTree (Logged Refuses)

/-- Whatever is reported or logged, the files stay the same but for what is in the log file. -/
theorem logStable_logged (log : Option Path) (t : FileTree) :
    LogStable log fun w => Logged log t w.disk where
  report _ _ h := h
  append _ _ _ _ hlog h happend := h.append hlog happend

/-! ### Setup -/

/-- A log file is opened when the logger is made; there is no logger if it cannot be. -/
theorem CommonOptions.openLogger_logged {o : CommonOptions} (hquiet : o.quiet = false)
    (env : Environment) (terminal : Bool) (settings : LoggingSettings) (w : World) :
    let log := settings.file.map Path.ofText
    (∃ l w', (o.openLogger env terminal settings : StateM World _).run w = (.ok (some l), w') ∧
        Logged log w.disk w'.disk) ∨
      ∃ e w', (o.openLogger env terminal settings : StateM World _).run w = (.error e, w') ∧
        w'.disk = w.disk ∧ Refuses w.disk log := by
  intro log
  have hsink : ∀ filter (w₁ : World), w₁.disk = w.disk →
      (∃ l w', (o.openSink env terminal settings filter : StateM World _).run w₁ =
          (.ok (some l), w') ∧ Logged log w.disk w'.disk) ∨
        ∃ e w', (o.openSink env terminal settings filter : StateM World _).run w₁ =
          (.error e, w') ∧ w'.disk = w.disk ∧ Refuses w.disk log := by
    intro filter w₁ hw₁
    unfold openSink
    -- only a log file is opened, and so may be refused
    rcases hfile : settings.file with - | file
    · refine .inl ⟨_, w₁, rfl, ?_⟩
      simp only [log, hfile, Option.map_none, hw₁]
      rfl
    · have hlog : log = some (.ofText file) := by simp only [log, hfile, Option.map_some]
      dsimp only
      rcases happend : w.disk.appendTo (.ofText file) [] with e | t
      · have hrun : (Disk.append (.ofText file) [] : StateM World _).run w₁ = (.error e, w₁) :=
          World.run_onDisk (FileTree.run_attempt_error (by rw [hw₁, happend]))
        rw [run_bind_of_eq hrun]
        exact .inr ⟨_, w₁, rfl, hw₁, _, e, hlog,
          FileTree.openForWriting_error_of_appendTo happend⟩
      · have hrun : (Disk.append (.ofText file) [] : StateM World _).run w₁ =
            (.ok (), { w₁ with disk := t }) :=
          World.run_onDisk (FileTree.run_attempt_ok (by rw [hw₁, happend]))
        rw [run_bind_of_eq hrun]
        refine .inl ⟨_, _, rfl, ?_⟩
        rw [hlog]
        exact ⟨[], happend⟩
  rw [openLogger_eq, if_neg (by simp [hquiet])]
  dsimp only
  split
  · -- what is reported first changes no file
    exact hsink _ { w with errors := w.errors ++ _ } rfl
  · exact hsink _ w rfl

namespace Invocation

variable {i : Invocation} {env : Environment} {terminal : Bool} {w : World}

/-- With settings a run is set up and its log file opened, unless that cannot be. -/
theorem prepare_of_settings {settings : Settings} (h : i.settings? env w = some settings)
    (terminal : Bool) :
    (∃ s w', (i.prepare env terminal : StateM World _).run w = (.ok s, w') ∧
        Logged (i.logFile? env w) w.disk w'.disk) ∨
      ∃ e w', (i.prepare env terminal : StateM World _).run w = (.error e, w') ∧
        w'.disk = w.disk ∧ Refuses w.disk (i.logFile? env w) := by
  obtain ⟨path, -, hrun⟩ := run_prepare_of_settings h terminal
  rw [hrun, prepareWith, logFile?_eq, h, Option.bind_some]
  by_cases hquiet : i.common.quiet = true
  · have hopen : (i.common.openLogger env terminal settings.logging : StateM World _).run w =
        (.ok none, w) := by
      rw [CommonOptions.openLogger_eq, if_pos hquiet]
      rfl
    rw [run_bind_of_eq hopen, if_pos hquiet]
    exact .inl ⟨_, w, rfl, rfl⟩
  · rw [if_neg hquiet]
    rw [Bool.not_eq_true] at hquiet
    obtain ⟨l, w', hopen, hlogged⟩ | ⟨e, w', hopen, hsame, hrefuses⟩ :=
      i.common.openLogger_logged hquiet env terminal settings.logging w
    · rw [run_bind_of_eq hopen]
      exact .inl ⟨_, w', rfl, hlogged⟩
    · rw [run_bind_of_eq hopen]
      exact .inr ⟨_, w', rfl, hsame, hrefuses⟩

/-- The log file is opened when a run is set up; there is no setup if it cannot be. -/
theorem prepare_logged (i : Invocation) (env : Environment) (terminal : Bool) (w : World) :
    (∃ s w', (i.prepare env terminal : StateM World _).run w = (.ok s, w') ∧
        Logged (i.logFile? env w) w.disk w'.disk) ∨
      ∃ e w', (i.prepare env terminal : StateM World _).run w = (.error e, w') ∧
        w'.disk = w.disk ∧ (i.logFile? env w = none ∨ Refuses w.disk (i.logFile? env w)) := by
  rcases hsettings : i.settings? env w with - | settings
  · obtain ⟨e, hrun⟩ := run_prepare_of_settings_none hsettings terminal
    exact .inr ⟨e, w, hrun, rfl, .inl (by simp [logFile?_eq, hsettings])⟩
  · obtain hdone | ⟨e, w', hrun, hsame, hrefuses⟩ := prepare_of_settings hsettings terminal
    · exact .inl hdone
    · exact .inr ⟨e, w', hrun, hsame, .inr hrefuses⟩

end Invocation

/-! ### Tasks -/

section

variable {log : Option Path} {P : World → Prop} {s : Setup} {o : CommonOptions}

/-- Documents are only said to be written. -/
theorem Setup.keeps_writeDocuments (h : LogStable log P) (hlogger : Logger.WritesTo s.logger log)
    (hdry : o.dryRun = true) (d : Documents) (path : Path) :
    Keeps P (s.writeDocuments o d path : StateM World _) := by
  rw [writeDocuments, if_pos hdry]
  refine (h.keeps_log hlogger _).bind fun _ => ?_
  exact .ite (fun _ => (h.keeps_log hlogger _).bind fun _ => .pure _) fun _ => .pure _

/-- A configuration file is only said to be made. -/
theorem Setup.keeps_createSettings (h : LogStable log P) (hlogger : Logger.WritesTo s.logger log)
    (hdry : o.dryRun = true) (force : Bool) :
    Keeps P (s.createSettings o force : StateM World _) := by
  have hthere : OnlyLooks (Disk.doesExist s.path : StateM World Bool) := fun _ => rfl
  refine hthere.keeps.bind fun isThere => .ite (fun _ => .pure _) fun _ => ?_
  rw [if_pos hdry]
  exact (h.keeps_log hlogger _).bind fun _ => .pure _

/-- What is generated is printed or only said to be written. -/
theorem Setup.keeps_generate (h : LogStable log P) (hlogger : Logger.WritesTo s.logger log)
    (hprint : ∀ text, Keeps P (Console.print text : StateM World Unit)) (hdry : o.dryRun = true)
    (g : GenerateOptions) : Keeps P (s.generate o g : StateM World _) := by
  refine (h.keeps_configuration hlogger _ _).bind fun r => ?_
  split
  · exact .pure _
  · exact (h.keeps_printError _).bind fun _ => .pure _
  · dsimp only
    split
    · exact (hprint _).bind fun _ => .pure _
    · exact (keeps_writeDocuments h hlogger hdry _ _).bind fun _ => .pure _

/-- Whatever is asked for, a dry run keeps what printing, reports and the log leave alone. -/
theorem Invocation.keeps_perform {i : Invocation} (h : LogStable log P)
    (hlogger : Logger.WritesTo s.logger log)
    (hprint : ∀ text, Keeps P (Console.print text : StateM World Unit))
    (hdry : i.common.dryRun = true) : Keeps P (i.perform s : StateM World _) := by
  have hdisplay : ∀ text, Keeps P (Setup.display text : StateM World _) :=
    fun text => (hprint text).bind fun _ => .pure _
  refine (h.keeps_log hlogger _).bind fun _ => ?_
  split
  · exact Setup.keeps_generate h hlogger hprint hdry _
  · exact hdisplay _
  · exact hdisplay _
  · exact hdisplay _
  · exact (Setup.keeps_createSettings h hlogger hdry _).bind fun _ => .pure _
  · exact hdisplay _

end

/-! ### Runs -/

/-- A dry run opens its log file, if it has one, and may log something; nothing else changes, and
    nothing at all if the log file cannot be opened. -/
theorem Invocation.execute_logged {i : Invocation} (hdry : i.common.dryRun = true)
    {env : Environment} {terminal : Bool} {w : World} {t' : FileTree}
    (ht' : ((i.execute env terminal : StateM World _).run w).2.disk = t') :
    Logged (i.logFile? env w) w.disk t' ∨ t' = w.disk ∧ Refuses w.disk (i.logFile? env w) := by
  obtain ⟨s, w₁, hprepare, hlogged⟩ | ⟨e, w₁, hprepare, hsame, hlog⟩ :=
    i.prepare_logged env terminal w
  · have hlogger := (setup_of_prepare (congrArg Prod.fst hprepare)).2
    rw [execute, run_bind_of_eq hprepare] at ht'
    rw [← ht']
    exact .inl (keeps_perform (logStable_logged _ w.disk) hlogger (fun _ _ h => h) hdry w₁ hlogged)
  · have hend : t' = w.disk := by
      rw [← hsame, ← ht', execute, run_bind_of_eq hprepare]
      rfl
    rcases hlog with hnone | hrefuses
    · left
      rw [hnone]
      exact hend
    · exact .inr ⟨hend, hrefuses⟩

namespace Program

/-- What is shown where there is nothing to run changes no file. -/
theorem disk_explain (stop : CommandLine.Stop) (w : World) :
    ((explain stop : StateM World _).run w).2.disk = w.disk := by
  cases stop <;> rfl

/-- A command line that is understood is executed, and a failure is reported. -/
theorem run_of_ofWords {words : List Bytes} {i : Invocation} (h : Invocation.ofWords words = .ok i)
    (env : Environment) (terminal : Bool) (w : World) :
    (run env terminal words : StateM World _).run w =
      match (i.execute env terminal : StateM World _).run w with
      | (.ok code, w') => (code, w')
      | (.error e, w') => (.failure, { w' with errors := w'.errors ++ e.report }) := by
  rw [run, h]
  rcases hexecute : (i.execute env terminal : StateM World _).run w with ⟨e | code, w'⟩
  · dsimp only
    rw [run_bind_of_eq hexecute]
    rfl
  · dsimp only
    rw [run_bind_of_eq hexecute]
    rfl

/-- What the program reports of a failure changes no file. -/
theorem disk_run {words : List Bytes} {i : Invocation} (h : Invocation.ofWords words = .ok i)
    (env : Environment) (terminal : Bool) (w : World) :
    ((run env terminal words : StateM World _).run w).2.disk =
      ((i.execute env terminal : StateM World _).run w).2.disk := by
  rw [run_of_ofWords h]
  rcases (i.execute env terminal : StateM World _).run w with ⟨e | code, w'⟩
  · rfl
  · rfl

/-- A run with `--dry-run` changes nothing but its log file, to which it may append something, also
    nothing, so that the file is there afterwards.  If it has no log file, or one that cannot be
    opened, nothing changes at all. -/
theorem disk_run_dry {words : List Bytes} (hdry : Text.encodeUtf8 "--dry-run" ∈ words)
    (env : Environment) (terminal : Bool) (w : World) :
    let t' := ((run env terminal words : StateM World _).run w).2.disk
    (∃ i p more, Invocation.ofWords words = .ok i ∧ i.logFile? env w = some p ∧
        w.disk.appendTo p more = .ok t') ∨
      t' = w.disk ∧ ∀ i p, Invocation.ofWords words = .ok i → i.logFile? env w = some p →
        ∃ e, w.disk.openForWriting p = .error e := by
  intro t'
  rcases hwords : Invocation.ofWords words with stop | i
  · have hend : t' = w.disk := by
      simp only [t']
      rw [run, hwords]
      exact disk_explain stop w
    refine .inr ⟨hend, ?_⟩
    rintro i p ⟨⟩
  · have hlogged := Invocation.execute_logged (Invocation.dryRun_of_mem hdry hwords)
      (disk_run hwords env terminal w).symm
    rcases hlog : i.logFile? env w with - | p
    · rw [hlog] at hlogged
      have hend : t' = w.disk := hlogged.elim id And.left
      refine .inr ⟨hend, ?_⟩
      rintro _ p ⟨rfl⟩ hp
      rw [hlog] at hp
      cases hp
    · rw [hlog] at hlogged
      rcases hlogged with ⟨more, happend⟩ | ⟨hend, q, e, hq, hopen⟩
      · exact .inl ⟨i, p, more, rfl, hlog, happend⟩
      · refine .inr ⟨hend, ?_⟩
        rintro _ p' ⟨rfl⟩ hp'
        obtain rfl : p' = q := Option.some.inj (hp'.symm.trans (hlog.trans hq))
        exact ⟨e, hopen⟩

/-- For one, a dry run without a log file. -/
theorem disk_run_dry_output :
    let words := ["--dry-run", "-n", "x", "-t", "0x1", "-r", "0x2", "-o", "o.toml"].map
      Text.encodeUtf8
    let env : Environment := { bindings := [(Text.encodeUtf8 "HOME", Text.encodeUtf8 "/home")] }
    let w : World := { disk := ⟨[], []⟩ }
    Text.encodeUtf8 "--dry-run" ∈ words ∧
      ((run env false words : StateM World _).run w).2.disk = w.disk := by
  intro words env w
  have hword : Text.encodeUtf8 "--dry-run" ∈ words := by decide +kernel
  refine ⟨hword, ?_⟩
  let g : GenerateOptions :=
    { name := some "x", txId := some "0x1", rxId := some "0x2", output := some (.ofText "o.toml") }
  let i : Invocation := { common := { dryRun := true }, task := .generate g }
  have hwords : Invocation.ofWords words = .ok i := by rfl
  have hlog : i.logFile? env w = none := by decide +kernel
  obtain ⟨i', p, more, hwords', hp, -⟩ | ⟨hsame, -⟩ := disk_run_dry hword env false w
  · obtain rfl : i = i' := Except.ok.inj (hwords.symm.trans hwords')
    rw [hlog] at hp
    cases hp
  · exact hsame

/-- A dry run makes its log file. -/
theorem disk_run_dry_log :
    let words := ["--dry-run", "-n", "x", "-t", "0x1", "-r", "0x2", "-o", "o.toml"].map
      Text.encodeUtf8
    let env : Environment :=
      { bindings := [("HOME", "/home"), ("ECUCFG__LOGGING__FILE", "log.txt")].map
          fun (name, value) => (Text.encodeUtf8 name, Text.encodeUtf8 value) }
    let w : World := { disk := ⟨[], []⟩ }
    let l : Location := [Text.encodeUtf8 "log.txt"]
    Text.encodeUtf8 "--dry-run" ∈ words ∧ w.disk.node? l = none ∧
      ∃ content, ((run env false words : StateM World _).run w).2.disk.node? l =
        some (.file content) := by
  intro words env w l
  let g : GenerateOptions :=
    { name := some "x", txId := some "0x1", rxId := some "0x2", output := some (.ofText "o.toml") }
  let i : Invocation := { common := { dryRun := true }, task := .generate g }
  have hwords : Invocation.ofWords words = .ok i := by rfl
  have hlog : i.logFile? env w = some (.ofText "log.txt") := by decide +kernel
  have hopen : w.disk.openForWriting (.ofText "log.txt") = .ok (l, []) := by rfl
  refine ⟨by decide +kernel, rfl, ?_⟩
  have hlogged := Invocation.execute_logged rfl (disk_run hwords env false w).symm
  rw [hlog] at hlogged
  rcases hlogged with hlogged | ⟨-, p, e, hp, hrefused⟩
  · obtain ⟨more, hthere⟩ := hlogged.exists_node? hopen
    exact ⟨_, hthere⟩
  · obtain rfl := Option.some.inj hp
    rw [hopen] at hrefused
    cases hrefused

end Program

end SovdConfig
