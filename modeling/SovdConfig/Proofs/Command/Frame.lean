import SovdConfig.Proofs.Command.DryRun
import SovdConfig.Proofs.Settings.DefaultFile

namespace SovdConfig

/-!
# The frame of a run

What a run of the program may change, whatever it is asked for and however it ends.  Main
definitions:

* `Invocation.output?`, `Invocation.definitions?` — the files that a run may write its documents to,
  whatever is at their places;
* `Invocation.IsTarget` — whether an entry is the place of one of these or of the log file;
* `Invocation.MayChange` — the entries that may differ after a run.

Main statement: `Program.mayChange_of_ne`, nothing else differs after a run.
-/

/-! ### What a run may write to -/

namespace Invocation

/-- The path of the output, if a run generates something and writes it to a file. -/
def output? (i : Invocation) : Option Path :=
  match i.task with
  | .generate g => if g.mode = .usage ∨ i.common.dryRun then none else g.output
  | _ => none

/-- The path of the definitions, if a run writes them with its output. -/
def definitions? (i : Invocation) : Option Path :=
  match i.task with
  | .generate g => if g.dids then i.output?.map Path.definitions else none
  | _ => none

/-- Whether an entry is the place of the output, of the definitions or of the log file. -/
def IsTarget (i : Invocation) (env : Environment) (w : World) (l : Location) : Prop :=
  ∃ p, (i.output? = some p ∨ i.definitions? = some p ∨ i.logFile? env w = some p) ∧
    w.disk.entryOf? p = some l

/-- What may differ between the files before and after a run: the targets; the configuration file,
    if it is made; and directories on the way to it, which come where there was nothing. -/
inductive MayChange (i : Invocation) (env : Environment) (w : World) (t : FileTree)
    (l : Location) : Prop
  | target : i.IsTarget env w l → MayChange i env w t l
  | settings {force : Bool} {path : Path} :
    i.task = .createSettings force → i.common.dryRun = false →
    i.settingsPath? env w = some path → (force = true ∨ w.disk.isThere path = false) →
    FileTree.namesDirectory path = false → t.entryOf? path = some l → MayChange i env w t l
  | directory {force : Bool} {path parent q : Path} :
    i.task = .createSettings force → i.common.dryRun = false →
    i.settingsPath? env w = some path → path.parent? = some parent → q.AtOrAbove parent →
    t.entryOf? q = some l → w.disk.node? l = none → t.node? l = some .directory →
      MayChange i env w t l

end Invocation

/-! ### Steps -/

section

variable {w : World} {may : Location → Prop}

/-- Printing leaves the files alone. -/
theorem Spares.print (text : String) :
    Spares (σ := World) may w (Console.print text : StateM World Unit) :=
  fun _ h => ⟨h.nodes, h.kept, h.entries, h.directories⟩

/-- Whether the lines of a logger go to entries that may change, if they go to a file. -/
def Logger.Within (logger : Option Logger) (may : Location → Prop) (w : World) : Prop :=
  ∀ l p, logger = some l → l.sink = .file p → ∀ e, w.disk.entryOf? p = some e → may e

/-- States that differ at most at some entries still do when a line has gone to one of these. -/
theorem SameBut.logStable {log : Option Path}
    (h : ∀ p, log = some p → ∀ l, w.disk.entryOf? p = some l → may l) :
    LogStable log (SameBut (σ := World) may w) where
  report w₁ text hw := ⟨hw.nodes, hw.kept, hw.entries, hw.directories⟩
  append w₁ p more t hp hw happend := by
    obtain ⟨l, old, hopen, rfl⟩ := FileTree.exists_put_of_appendTo happend
    obtain ⟨hentry, hfree, -⟩ := FileTree.openForWriting_ok hopen
    have hbecomes := World.becomes_put hfree (old ++ more)
    have hl : may l := h p hp l (by rw [← hentry]; exact congrFun hw.entries.symm p)
    refine hw.trans ⟨fun e he => ?_, fun e he => ?_, hbecomes.entries, hbecomes.directories⟩
    · have hne : e ≠ l := by
        rintro rfl
        exact he hl
      rw [hbecomes.nodes, Function.update_of_ne hne]
      rfl
    · rw [hbecomes.nodes]
      by_cases heq : e = l
      · rw [heq, Function.update_self]
        simp
      · rw [Function.update_of_ne heq]
        exact he

/-- A logger within some entries writes to a log file at one of them. -/
theorem Logger.Within.exists_log {logger : Option Logger} (h : Logger.Within logger may w) :
    ∃ log, Logger.WritesTo logger log ∧ LogStable log (SameBut (σ := World) may w) := by
  by_cases hfile : ∃ l p, logger = some l ∧ l.sink = .file p
  · obtain ⟨l, p, rfl, hsink⟩ := hfile
    refine ⟨some p, ?_, SameBut.logStable ?_⟩
    · rintro _ q ⟨⟩ hq
      rw [hsink] at hq
      cases hq
      rfl
    · rintro _ ⟨⟩
      exact h l p rfl hsink
  · exact ⟨none, fun l p hl hp => absurd ⟨l, p, hl, hp⟩ hfile, SameBut.logStable nofun⟩

/-- Logging leaves everything else alone. -/
theorem Spares.log {logger : Option Logger} (h : Logger.Within logger may w) (r : LogRecord) :
    Spares (σ := World) may w (Logger.log logger r : StateM World Unit) := by
  obtain ⟨log, hlogger, hstable⟩ := h.exists_log
  exact .of_keeps (hstable.keeps_log hlogger r)

/-- So does generating a configuration. -/
theorem Spares.configuration {logger : Option Logger} (h : Logger.Within logger may w)
    (settings : GeneratorSettings) (mode : GenerateMode) :
    Spares (σ := World) may w (mode.configuration logger settings : StateM World _) := by
  obtain ⟨log, hlogger, hstable⟩ := h.exists_log
  exact .of_keeps (hstable.keeps_configuration hlogger settings mode)

/-- Setting up a run leaves everything alone but the log file. -/
theorem Invocation.sameBut_prepare {i : Invocation} {env : Environment} (terminal : Bool)
    (hmay : ∀ p, i.logFile? env w = some p → ∀ l, w.disk.entryOf? p = some l → may l) :
    SameBut (σ := World) may w ((i.prepare env terminal : StateM World _).run w).2 :=
  keeps_prepare terminal (SameBut.logStable hmay) (.refl _ _)

/-! ### Tasks -/

/-- The configuration file is written as in the tree. -/
theorem World.run_writeDefault (path : Path) (w : World) :
    (Settings.writeDefault path : StateM World (Except WriteFault Unit)).run w =
      (((Settings.writeDefault path : StateM FileTree (Except WriteFault Unit)).run w.disk).1,
        { w with disk :=
          ((Settings.writeDefault path :
            StateM FileTree (Except WriteFault Unit)).run w.disk).2 }) := by
  rw [Settings.writeDefault, Settings.writeDefault]
  rcases path.parent? with - | parent
  · rfl
  · dsimp only
    have hmade : (Disk.createDirectories parent : StateM World _).run w =
        ((w.disk.createDirectories parent).2,
          { w with disk := (w.disk.createDirectories parent).1 }) := rfl
    have hmade' : (Disk.createDirectories parent : StateM FileTree _).run w.disk =
        ((w.disk.createDirectories parent).2, (w.disk.createDirectories parent).1) := rfl
    rw [run_bind_of_eq hmade, run_bind_of_eq hmade']
    rcases (w.disk.createDirectories parent).2 with e | ⟨⟩
    · rfl
    · rfl

namespace Setup

variable {s : Setup} {o : CommonOptions}

/-- Documents are written to their files, unless the run is dry. -/
theorem spares_writeDocuments {d : Documents} {path : Path} (h : Logger.Within s.logger may w)
    (hpath : o.dryRun = false → ∀ l, w.disk.entryOf? path = some l → may l)
    (hdefinitions : o.dryRun = false → d.definitions.isSome →
      ∀ l, w.disk.entryOf? path.definitions = some l → may l) :
    Spares (σ := World) may w (s.writeDocuments o d path : StateM World _) := by
  unfold writeDocuments
  refine .ite (fun _ => ?_) fun hdry => ?_
  · -- a dry run only logs what it would write
    refine (Spares.log h _).bind fun _ => ?_
    exact .ite (fun _ => (Spares.log h _).bind fun _ => .pure _) fun _ => .pure _
  · rw [Bool.not_eq_true] at hdry
    refine .writeAll o.quiet (Documents.forall_mem_files.2 ⟨hpath hdry, fun text htext => ?_⟩)
    exact hdefinitions hdry (by rw [htext]; rfl)

/-- What is generated goes to its files. -/
theorem spares_generate {g : GenerateOptions} (h : Logger.Within s.logger may w)
    (hpath : g.mode ≠ .usage → o.dryRun = false → ∀ path, g.output = some path →
      (∀ l, w.disk.entryOf? path = some l → may l) ∧
        (g.dids = true → ∀ l, w.disk.entryOf? path.definitions = some l → may l)) :
    Spares (σ := World) may w (s.generate o g : StateM World _) := by
  by_cases hmode : g.mode = .usage
  · rw [generate, hmode]
    exact (Spares.printError _).bind fun _ => .pure _
  · unfold generate
    refine (Spares.configuration h _ _).bind fun r => ?_
    split
    · exact .pure _
    · exact (Spares.printError _).bind fun _ => .pure _
    · next configuration =>
      dsimp only
      split
      · exact (Spares.print _).bind fun _ => .pure _
      · next path houtput =>
        have hdids : g.definitions.isSome → g.dids = true := by
          unfold GenerateOptions.definitions
          split <;> simp_all
        refine (spares_writeDocuments h ?_ ?_).bind fun _ => .pure _
        · exact fun hdry => (hpath hmode hdry path houtput).1
        · exact fun hdry hsome => (hpath hmode hdry path houtput).2 (hdids hsome)

/-- A configuration file is made as in the tree, unless it is there and is to be kept. -/
theorem run_createSettings {force : Bool} (hdry : o.dryRun = false) (w : World) :
    ((s.createSettings o force : StateM World _).run w).2.disk = w.disk ∨
      (force = true ∨ w.disk.isThere s.path = false) ∧ ∃ r,
        (Settings.writeDefault s.path : StateM FileTree (Except WriteFault Unit)).run w.disk =
          (r, ((s.createSettings o force : StateM World _).run w).2.disk) := by
  have hthere : (Disk.doesExist s.path : StateM World Bool).run w =
      (w.disk.isThere s.path, w) := rfl
  rw [createSettings, run_bind_of_eq hthere]
  by_cases hkeep : (w.disk.isThere s.path && !force) = true
  · rw [if_pos hkeep]
    exact .inl rfl
  · have hmade : force = true ∨ w.disk.isThere s.path = false := by
      cases force with
      | true => exact .inl rfl
      | false => exact .inr (by simpa using hkeep)
    rw [if_neg hkeep, if_neg (by simp [hdry])]
    refine .inr ⟨hmade, ?_⟩
    have hrun := World.run_writeDefault s.path w
    rcases hwrite : (Settings.writeDefault s.path : StateM FileTree (Except WriteFault Unit)).run
      w.disk with ⟨e | ⟨⟩, t⟩
    · rw [hwrite] at hrun
      rw [run_bind_of_eq hrun]
      exact ⟨_, rfl⟩
    · rw [hwrite] at hrun
      rw [run_bind_of_eq hrun]
      dsimp only
      -- what is reported changes no file
      split
      · exact ⟨_, rfl⟩
      · exact ⟨_, rfl⟩

end Setup

/-! ### The configuration file -/

/-- What is there is found by a path that leads to it and has no slash at its end. -/
theorem FileTree.isThere_of_entryOf? {t : FileTree} {p : Path} {l : Location}
    (hentry : t.entryOf? p = some l) (hnode : t.node? l ≠ none)
    (hslash : namesDirectory p = false) : t.isThere p = true := by
  rcases hresolve : t.resolve p with e | place
  · rw [entryOf?, hresolve] at hentry
    cases hentry
  · rw [entryOf?, hresolve] at hentry
    obtain rfl : place.location = l := Option.some.inj hentry
    rcases place with ⟨l, content | -⟩ | ⟨directory, name⟩
    · simp [isThere, find?, hresolve, hslash]
    · simp [isThere, find?, hresolve]
    · exact absurd (resolve_ok hresolve (by simp)).1 hnode

/-- What a path leads to is still there if nothing has gone. -/
theorem SameBut.isThere {w' : World} {p : Path} (h : SameBut (σ := World) may w w')
    (hthere : w.disk.isThere p = true) : w'.disk.isThere p = true := by
  have hdirectories : w'.disk.isDirectory p = w.disk.isDirectory p := congrFun h.directories p
  rcases hresolve : w.disk.resolve p with e | ⟨l, content | -⟩ | ⟨directory, name⟩
  · simp [FileTree.isThere, FileTree.find?, hresolve] at hthere
  · by_cases hslash : FileTree.namesDirectory p = true
    · simp [FileTree.isThere, FileTree.find?, hresolve, hslash] at hthere
    · have hnode := (FileTree.resolve_ok hresolve (by simp)).1
      have hentry : w.disk.entryOf? p = some l := by rw [FileTree.entryOf?, hresolve]; rfl
      refine FileTree.isThere_of_entryOf? (l := l) ?_ (h.kept l ?_) (by simpa using hslash)
      · rw [← hentry]
        exact congrFun h.entries p
      · show w.disk.node? l ≠ none
        simp_all
  · have hdirectory : w'.disk.isDirectory p = true := by
      rw [hdirectories, FileTree.isDirectory, FileTree.find?, hresolve]
      rfl
    rw [FileTree.isDirectory, beq_iff_eq] at hdirectory
    rw [FileTree.isThere, hdirectory]
    rfl
  · simp [FileTree.isThere, FileTree.find?, hresolve] at hthere

namespace Invocation

variable {i : Invocation} {env : Environment} {terminal : Bool}

/-- What differs once a configuration file has been made may differ. -/
theorem mayChange_of_writeDefault {force : Bool} {path : Path} {w₁ : World} {t' : FileTree}
    {r : Except WriteFault Unit} {l : Location} (htask : i.task = .createSettings force)
    (hdry : i.common.dryRun = false) (hpath : i.settingsPath? env w = some path)
    (hmade : force = true ∨ w₁.disk.isThere path = false)
    (hsame : SameBut (σ := World) (i.IsTarget env w) w w₁)
    (hwrite : (Settings.writeDefault path : StateM FileTree (Except WriteFault Unit)).run w₁.disk =
      (r, t'))
    (hne : t'.node? l ≠ w.disk.node? l) : i.MayChange env w t' l := by
  by_cases htarget : i.IsTarget env w l
  · exact .target htarget
  have hbefore : w₁.disk.node? l = w.disk.node? l := hsame.nodes l htarget
  have habsent : force = true ∨ w.disk.isThere path = false := by
    refine hmade.imp_right fun hnot => ?_
    by_contra hthere
    rw [Bool.not_eq_false] at hthere
    rw [hsame.isThere hthere] at hnot
    cases hnot
  rw [← hbefore] at hne
  obtain ⟨t, hgrows, hnew, hend⟩ := Settings.run_writeDefault hwrite
  -- where a directory has come it is there in the end, whether or not the file has been written
  have hdirectory : t.node? l ≠ w₁.disk.node? l → t'.node? l = t.node? l →
      (∀ q, t'.entryOf? q = t.entryOf? q) → i.MayChange env w t' l := by
    intro hcame hstill hways
    obtain ⟨parent, q, hparent, hq, hentry⟩ := hnew l hcame
    obtain ⟨hfree, hthere⟩ := hgrows.of_ne hcame
    exact .directory htask hdry hpath hparent hq (by rw [hways, hentry])
      (by rw [← hbefore, hfree]) (by rw [hstill, hthere])
  rcases hend with ⟨e, -, rfl⟩ | ⟨-, hfile⟩
  · exact hdirectory hne rfl fun _ => rfl
  · obtain ⟨place, old, hopen, rfl⟩ := FileTree.exists_put_of_write hfile
    obtain ⟨hentry, hfree, hslash⟩ := FileTree.openForWriting_ok hopen
    have hnodes := FileTree.node?_put_eq_update hfree (Settings.defaultBytes path)
    have hsameWays : t.SameWays (t.put place (.file (Settings.defaultBytes path))) :=
      FileTree.sameWays_of_update rfl hnodes hfree (by simp)
    have hways : ∀ q, (t.put place (.file (Settings.defaultBytes path))).entryOf? q =
        t.entryOf? q := by
      intro q
      rw [FileTree.entryOf?, FileTree.entryOf?, hsameWays q]
    by_cases hplace : l = place
    · rw [hplace]
      exact .settings htask hdry hpath habsent hslash (by rw [hways, hentry])
    · have hstill : (t.put place (.file (Settings.defaultBytes path))).node? l = t.node? l := by
        rw [hnodes, Function.update_of_ne hplace]
      rw [hstill] at hne
      exact hdirectory hne hstill hways

/-- A run that makes no configuration file changes its targets and nothing else. -/
theorem spares_perform {s : Setup} (hlog : Logger.Within s.logger (i.IsTarget env w) w)
    (htask : i.common.dryRun = true ∨ ∀ force, i.task ≠ .createSettings force) :
    Spares (σ := World) (i.IsTarget env w) w (i.perform s : StateM World _) := by
  -- four of the six tasks print a text and do nothing else
  have hdisplay : ∀ text, Spares (σ := World) (i.IsTarget env w) w
      (Setup.display text : StateM World _) := fun text => (Spares.print text).bind fun _ => .pure _
  unfold perform
  refine (Spares.log hlog _).bind fun _ => ?_
  split
  · next g hg =>
    refine Setup.spares_generate hlog fun hmode hdry path hpath => ?_
    have houtput : i.output? = some path := by simp [output?, hg, hmode, hdry, hpath]
    refine ⟨fun l hl => ⟨path, .inl houtput, hl⟩, fun hdids l hl => ?_⟩
    exact ⟨path.definitions, .inr (.inl (by simp [definitions?, hg, hdids, houtput])), hl⟩
  · exact hdisplay _
  · exact hdisplay _
  · exact hdisplay _
  · next force hforce =>
    have hdry := htask.resolve_right fun hnot => hnot force hforce
    obtain ⟨log, hlogger, hstable⟩ := hlog.exists_log
    have hkeeps := Setup.keeps_createSettings hstable hlogger hdry force
    exact (Spares.of_keeps hkeeps).bind fun _ => .pure _
  · exact hdisplay _

/-- Nothing differs after what is asked for has been done but what may. -/
theorem mayChange_of_perform {s : Setup} {w₁ : World} {l : Location}
    (hpath : i.settingsPath? env w = some s.path)
    (hlog : Logger.Within s.logger (i.IsTarget env w) w)
    (hsame : SameBut (σ := World) (i.IsTarget env w) w w₁)
    (hne : ((i.perform s : StateM World _).run w₁).2.disk.node? l ≠ w.disk.node? l) :
    i.MayChange env w ((i.perform s : StateM World _).run w₁).2.disk l := by
  have htarget : ∀ {w₂ : World}, SameBut (σ := World) (i.IsTarget env w) w w₂ →
      w₂.disk.node? l ≠ w.disk.node? l → ∀ t, i.MayChange env w t l := by
    intro w₂ hsame₂ hne₂ t
    by_contra hnot
    exact hne₂ (hsame₂.nodes l fun h => hnot (.target h))
  by_cases htask : i.common.dryRun = true ∨ ∀ force, i.task ≠ .createSettings force
  · exact htarget (spares_perform hlog htask w₁ hsame) hne _
  · -- the log record comes first, and then the configuration file
    simp only [not_or, not_forall, not_not, Bool.not_eq_true] at htask
    obtain ⟨hdry, force, htask⟩ := htask
    rcases hrecord : (s.log .debug ("resolved paths: config: " ++ s.path.display) :
      StateM World Unit).run w₁ with ⟨⟨⟩, w₂⟩
    have hsame₂ : SameBut (σ := World) (i.IsTarget env w) w w₂ := by
      have hrecorded : SameBut (σ := World) (i.IsTarget env w) w ((s.log .debug
          ("resolved paths: config: " ++ s.path.display) : StateM World Unit).run w₁).2 :=
        Spares.log hlog _ w₁ hsame
      rwa [hrecord] at hrecorded
    have hend : ((i.perform s : StateM World _).run w₁).2 =
        ((s.createSettings i.common force : StateM World _).run w₂).2 := by
      rw [perform, run_bind_of_eq hrecord, htask]
      dsimp only
      rw [run_bind_of_eq (Prod.eta _).symm]
      rfl
    rw [hend] at hne ⊢
    rcases Setup.run_createSettings hdry w₂ with hkept | ⟨hmade, r, hwrite⟩
    · rw [hkept] at hne
      exact htarget hsame₂ hne _
    · exact mayChange_of_writeDefault htask hdry hpath hmade hsame₂ hwrite hne

/-- Nothing differs after a run but what may. -/
theorem mayChange_of_execute {l : Location}
    (hne : ((i.execute env terminal : StateM World _).run w).2.disk.node? l ≠ w.disk.node? l) :
    i.MayChange env w ((i.execute env terminal : StateM World _).run w).2.disk l := by
  have hmay : ∀ p, i.logFile? env w = some p →
      ∀ l, w.disk.entryOf? p = some l → i.IsTarget env w l :=
    fun p hp l hl => ⟨p, .inr (.inr hp), hl⟩
  have hsame := sameBut_prepare terminal hmay
  rcases hprepare : (i.prepare env terminal : StateM World _).run w with ⟨e | s, w₁⟩
  · rw [hprepare] at hsame
    have hend : ((i.execute env terminal : StateM World _).run w).2 = w₁ := by
      rw [execute, run_bind_of_eq hprepare]
      rfl
    rw [hend] at hne ⊢
    refine .target ?_
    by_contra hnot
    exact hne (hsame.nodes l hnot)
  · obtain ⟨hpath, hlogger⟩ := setup_of_prepare (congrArg Prod.fst hprepare)
    rw [hprepare] at hsame
    have hend : (i.execute env terminal : StateM World _).run w =
        (i.perform s : StateM World _).run w₁ := by
      rw [execute, run_bind_of_eq hprepare]
    rw [hend] at hne ⊢
    exact mayChange_of_perform hpath (fun l p hl hsink e he => hmay p (hlogger l p hl hsink) e he)
      hsame hne

end Invocation

namespace Program

/-- Nothing differs after a run of the program but what may. -/
theorem mayChange_of_ne {env : Environment} {terminal : Bool} {words : List Bytes} {l : Location}
    (hne : ((run env terminal words : StateM World _).run w).2.disk.node? l ≠ w.disk.node? l) :
    ∃ i, Invocation.ofWords words = .ok i ∧
      i.MayChange env w ((run env terminal words : StateM World _).run w).2.disk l := by
  rcases hwords : Invocation.ofWords words with stop | i
  · rw [run, hwords] at hne
    exact absurd (congrArg (·.node? l) (disk_explain stop w)) hne
  · rw [disk_run hwords] at hne ⊢
    exact ⟨i, rfl, Invocation.mayChange_of_execute hne⟩

end Program

end

end SovdConfig
