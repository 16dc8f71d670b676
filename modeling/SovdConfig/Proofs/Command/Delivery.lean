import SovdConfig.Proofs.Command.Frame
import SovdConfig.Proofs.Command.Printing
import SovdConfig.Proofs.Discovery.Parameters

namespace SovdConfig

/-!
# Printing and writing

Two runs that differ in nothing but whether documents are printed or written.

Main definition: `Invocation.LogsAt`, the entry of the log file.

Main statements:

* `Invocation.execute_generate` — the two do the same until documents are delivered;
* `Documents.read_of_write` — what can be read where documents were written are these documents;
* `Program.run_written_printed` — both deliver the same documents, or fail alike.
-/

open DiskView

/-! ### What is read -/

namespace FileTree

variable {t : FileTree} {p : Path} {content : Bytes}

/-- What is read is the file at the entry that the path leads to, without a slash at its end. -/
theorem read_eq_ok_iff : t.read p = .ok content ↔
    t.isDirectory p = false ∧ namesDirectory p = false ∧
      ∃ l, t.entryOf? p = some l ∧ t.node? l = some (.file content) := by
  rcases hresolve : t.resolve p with e | place
  · simp [read, hresolve, entryOf?, reached]
  · by_cases hplace : place.node? = some .directory
    · -- a directory is not read, whatever the tree has at its location
      rcases place with ⟨l, old | -⟩ | ⟨directory, name⟩
      · cases hplace
      · simp [read, hresolve, isDirectory, find?]
      · cases hplace
    · have hnode := (resolve_ok hresolve hplace).1
      by_cases hslash : namesDirectory p = true
      · rcases place with ⟨l, old | -⟩ | ⟨directory, name⟩ <;>
          simp [read, hresolve, hslash]
      · rcases place with ⟨l, old | -⟩ | ⟨directory, name⟩
        · have hold : t.node? l = some (.file old) := hnode
          simp [read, hresolve, hslash, isDirectory, find?, entryOf?, reached, hold]
        · exact absurd rfl hplace
        · have hnone : t.node? (directory ++ [name]) = none := hnode
          simp [read, hresolve, hslash, entryOf?, reached, hnone]

/-- What is read is what is at the entry that the path leads to. -/
theorem node?_of_read {l : Location} (h : t.read p = .ok content) (hentry : t.entryOf? p = some l) :
    t.node? l = some (.file content) := by
  obtain ⟨-, -, l', hl', hnode⟩ := read_eq_ok_iff.1 h
  obtain rfl : l = l' := Option.some.inj (hentry.symm.trans hl')
  exact hnode

end FileTree

/-- What may not differ is read in both of two states or in neither. -/
theorem SameBut.read_eq_ok_iff {may : Location → Prop} {w w' : World} {p : Path} {content : Bytes}
    (h : SameBut (σ := World) may w w') (hp : ∀ l, w.disk.entryOf? p = some l → ¬ may l) :
    w'.disk.read p = .ok content ↔ w.disk.read p = .ok content := by
  have hdirectory : w'.disk.isDirectory p = w.disk.isDirectory p := congrFun h.directories p
  have hentry : w'.disk.entryOf? p = w.disk.entryOf? p := congrFun h.entries p
  rw [FileTree.read_eq_ok_iff, FileTree.read_eq_ok_iff, hdirectory, hentry]
  refine and_congr_right fun _ => and_congr_right fun _ => exists_congr fun l => ?_
  refine and_congr_right fun hl => ?_
  have hnode : w'.disk.node? l = w.disk.node? l := h.nodes l (hp l hl)
  rw [hnode]

/-! ### Writing -/

section

variable {P : World → Prop} {quiet : Bool}
  (hdisk : ∀ {α : Type} (f : StateM FileTree α), Keeps P (World.onDisk f))
  (hreport : quiet = false → ∀ text, Keeps P (Console.printError text : StateM World Unit))

namespace OutputFile

include hdisk

/-- A temporary file gets its mode and its content, or is removed. -/
theorem keeps_prepare (f : OutputFile) (staged : Location) :
    Keeps P (f.prepare staged : StateM World _) := by
  have hdiscard : Keeps P (Disk.discard (m := StateM World) staged) := hdisk _
  refine Keeps.bind (hdisk _) fun made => ?_
  split
  · exact hdiscard.bind fun _ => .pure _
  · refine Keeps.bind (hdisk _) fun filled => ?_
    split
    · exact hdiscard.bind fun _ => .pure _
    · exact .pure _

/-- A file is made ready. -/
theorem keeps_stage (f : OutputFile) : Keeps P (f.stage : StateM World _) := by
  refine Keeps.bind (hdisk _) fun isDirectory => .ite (fun _ => .pure _) fun _ => ?_
  refine Keeps.bind (hdisk _) fun made => ?_
  split
  · exact .pure _
  · exact keeps_prepare hdisk f _

/-- Temporary files are removed. -/
theorem keeps_discardAll (staged : List (Disk.Staged (StateM World))) :
    Keeps P (discardAll staged : StateM World Unit) := by
  induction staged with
  | nil => exact .pure ()
  | cons s rest ih => exact Keeps.bind (hdisk _) fun _ => ih

/-- All files are made ready. -/
theorem keeps_stageAll (files : List OutputFile) :
    Keeps P (stageAll files : StateM World _) := by
  induction files with
  | nil => exact .pure _
  | cons f rest ih =>
    refine (keeps_stage hdisk f).bind fun r => ?_
    split
    · exact .pure _
    · refine ih.bind fun r' => ?_
      split
      · exact Keeps.bind (hdisk _) fun _ => .pure _
      · exact .pure _

include hreport

/-- Temporary files take their places, and that is reported unless the run is quiet. -/
theorem keeps_commitAll
    (pairs : List (OutputFile × Disk.Staged (StateM World))) :
    Keeps P (commitAll quiet pairs : StateM World _) := by
  induction pairs with
  | nil => exact .pure _
  | cons p rest ih =>
    obtain ⟨f, staged⟩ := p
    refine Keeps.bind (hdisk _) fun placed => ?_
    split
    · exact (keeps_discardAll hdisk _).bind fun _ => .pure _
    · exact .ite (fun hloud => (hreport (by simpa using hloud) _).bind fun _ => ih) fun _ => ih

/-- Writing files keeps what operations on files and reports keep. -/
theorem keeps_writeAll (files : List OutputFile) :
    Keeps P (writeAll quiet files : StateM World _) := by
  refine (keeps_stageAll hdisk files).bind fun r => ?_
  split
  · exact .pure _
  · exact keeps_commitAll hdisk hreport _

end OutputFile

end

/-- Writing documents prints nothing. -/
theorem Documents.output_of_write (d : Documents) (quiet : Bool) (path : Path) (w : World) :
    ((d.write quiet path : StateM World _).run w).2.output = w.output :=
  OutputFile.keeps_writeAll (P := fun w' => w'.output = w.output) (fun _ _ h => h)
    (fun _ _ _ h => h) _ w rfl

/-- Writing documents without reports leaves the error stream alone. -/
theorem Documents.errors_of_write (d : Documents) (path : Path) (w : World) :
    ((d.write true path : StateM World _).run w).2.errors = w.errors :=
  OutputFile.keeps_writeAll (P := fun w' => w'.errors = w.errors) (fun _ _ h => h)
    (fun h => absurd h (by decide)) _ w rfl

/-! ### Documents in their files -/

section

variable {σ : Type} [Disk (StateM σ)] [DiskView σ] [Console (StateM σ)] [LawfulDisk σ]

/-- The first of several files takes its place, and whatever is under its temporary name, also if
    that is no longer its content, goes there. -/
theorem exists_of_commitAll_cons {quiet : Bool} {f : OutputFile} {t : Disk.Staged (StateM σ)}
    {rest : List (OutputFile × Disk.Staged (StateM σ))} {s s' : σ} (hstaged : IsStaged s t)
    (h : (OutputFile.commitAll quiet ((f, t) :: rest) : StateM σ _).run s = (.ok (), s')) :
    ∃ e s₁, target? s f.path = some e ∧ nameOf e = Path.endOf f.path.bytes ∧
      node? s₁ = Function.update (Function.update (node? s) (temporary t) none) e
        (node? s (temporary t)) ∧
      target? s₁ = target? s ∧
      (OutputFile.commitAll quiet rest : StateM σ _).run s₁ = (.ok (), s') := by
  rcases hcommit : (Disk.commit (m := StateM σ) t f.path).run s with ⟨cause | ⟨⟩, s₁⟩
  · rw [OutputFile.commitAll, run_bind_of_eq hcommit] at h
    dsimp only at h
    rw [run_bind_of_eq (Prod.eta _).symm] at h
    cases h
  · obtain ⟨e, hentry, hname, hmoved⟩ := LawfulDisk.commit_ok hstaged hcommit
    obtain ⟨s₂, hreport, hnodes, hentries, -⟩ := report_run quiet f s₁
    rw [OutputFile.commitAll, run_bind_of_eq hcommit] at h
    dsimp only at h
    rw [hreport] at h
    exact ⟨e, s₂, hentry, hname, hnodes.trans hmoved.nodes, hentries.trans hmoved.entries, h⟩

/-- Files that have been written were all made ready and took their places. -/
theorem exists_staging_of_writeAll {quiet : Bool} {files : List OutputFile} {s s' : σ}
    (h : (OutputFile.writeAll quiet files : StateM σ _).run s = (.ok (), s')) :
    ∃ ts s₁, Staging files s ts s₁ ∧
      (OutputFile.commitAll quiet (files.zip ts) : StateM σ _).run s₁ = (.ok (), s') := by
  rcases firstRefused_or_staging files s with ⟨f, e, hrefused⟩ | ⟨ts, s₁, hstaging⟩
  · obtain ⟨s₁, hrun, -⟩ := writeAll_of_firstRefused quiet hrefused
    rw [hrun] at h
    cases h
  · rw [OutputFile.writeAll, run_bind_of_eq (stageAll_of_staging hstaging)] at h
    exact ⟨ts, s₁, hstaging, h⟩

/-- A file that has been written by itself is in its place. -/
theorem node?_of_writeAll_one {quiet : Bool} {f : OutputFile} {s s' : σ}
    (h : (OutputFile.writeAll quiet [f] : StateM σ _).run s = (.ok (), s')) :
    target? s' = target? s ∧
      ∃ e, target? s f.path = some e ∧ node? s' e = some (.file f.bytes) := by
  obtain ⟨ts, s₁, hstaging, hcommit⟩ := exists_staging_of_writeAll h
  obtain ⟨t, rfl⟩ := List.length_eq_one_iff.1 hstaging.length_eq
  obtain ⟨hready, hbecomes⟩ := hstaging.ready
  obtain ⟨e, s₂, hentry, -, hnodes, hentries, hend⟩ :=
    exists_of_commitAll_cons hready.isStaged hcommit
  cases hend
  refine ⟨hentries.trans hbecomes.entries, e, by rw [← hentry, hbecomes.entries], ?_⟩
  rw [hnodes, Function.update_self]
  exact hready.content (f, t) (.head _)

/-- Two files that have been written and are both in their places have their contents.  A temporary
    file may stand in the place of the first one; it takes the content along when it goes. -/
theorem node?_of_writeAll_two {quiet : Bool} {f g : OutputFile} {s s' : σ}
    (hne : Path.endOf f.path.bytes ≠ Path.endOf g.path.bytes)
    (h : (OutputFile.writeAll quiet [f, g] : StateM σ _).run s = (.ok (), s')) :
    target? s' = target? s ∧ ∃ e e', target? s f.path = some e ∧ target? s g.path = some e' ∧
      (node? s' e ≠ none →
        node? s' e = some (.file f.bytes) ∧ node? s' e' = some (.file g.bytes)) := by
  obtain ⟨ts, s₁, hstaging, hcommit⟩ := exists_staging_of_writeAll h
  obtain ⟨t, t', rfl⟩ := List.length_eq_two.1 hstaging.length_eq
  obtain ⟨hready, hbecomes⟩ := hstaging.ready
  have hcontent : node? s₁ (temporary t) = some (.file f.bytes) := hready.content (f, t) (.head _)
  have hcontent' : node? s₁ (temporary t') = some (.file g.bytes) :=
    hready.content (g, t') (.tail _ (.head _))
  have hapart : temporary t' ≠ temporary t := by
    have hdistinct := hready.distinct
    simp only [List.zip_cons_cons, List.zip_nil_right, List.map_cons, List.map_nil,
      List.nodup_cons, List.mem_singleton] at hdistinct
    exact Ne.symm hdistinct.1
  obtain ⟨e, s₂, hentry, hname, hnodes, hentries, hrest⟩ :=
    exists_of_commitAll_cons hready.isStaged hcommit
  rw [hcontent] at hnodes
  -- the second file is still there, if only as a copy of the first one
  have hthere : node? s₂ (temporary t') =
      if temporary t' = e then some (.file f.bytes) else some (.file g.bytes) := by
    rw [hnodes]
    split
    · next heq => rw [heq, Function.update_self]
    · next heq => rw [Function.update_of_ne heq, Function.update_of_ne hapart, hcontent']
  have hstaged : IsStaged s₂ t' := by
    rw [IsStaged, hthere]
    split
    · exact ⟨_, rfl⟩
    · exact ⟨_, rfl⟩
  obtain ⟨e', s₃, hentry', hname', hnodes', hentries', hend⟩ :=
    exists_of_commitAll_cons hstaged hrest
  cases hend
  have hplaces : e ≠ e' := by
    rintro rfl
    exact hne (hname.symm.trans hname')
  refine ⟨hentries'.trans (hentries.trans hbecomes.entries), e, e',
    by rw [← hentry, hbecomes.entries], by rw [← hentry', hentries, hbecomes.entries], ?_⟩
  intro hsome
  have hfree : temporary t' ≠ e := by
    intro heq
    rw [hnodes', Function.update_of_ne hplaces, heq, Function.update_self] at hsome
    exact hsome rfl
  rw [if_neg hfree] at hthere
  constructor
  · rw [hnodes', Function.update_of_ne hplaces, Function.update_of_ne hfree.symm, hnodes,
      Function.update_self]
  · rw [hnodes', Function.update_self, hthere]

end

/-- Documents that have been written, and can all be read where they were written, are what is
    read. -/
theorem Documents.read_of_write {d : Documents} {quiet : Bool} {path : Path} {w w' : World}
    (h : (d.write quiet path : StateM World _).run w = (.ok (), w')) {content : Bytes}
    (hread : w'.disk.read path = .ok content)
    (hdefinitions : ∀ text, d.definitions = some text →
      ∃ content, w'.disk.read path.definitions = .ok content) :
    content = Text.encodeUtf8 d.configuration ∧ ∀ text, d.definitions = some text →
      w'.disk.read path.definitions = .ok (Text.encodeUtf8 text) := by
  rcases hcases : d.definitions with - | text
  · rw [write, files_of_none hcases] at h
    obtain ⟨hentries, e, hentry, hin⟩ := node?_of_writeAll_one h
    have hnode := FileTree.node?_of_read hread ((congrFun hentries path).trans hentry)
    refine ⟨?_, by simp⟩
    have heq := hnode.symm.trans hin
    simpa [OutputFile.bytes] using heq
  · rw [write, files_of_some hcases] at h
    obtain ⟨hentries, e, e', hentry, hentry', hin⟩ :=
      node?_of_writeAll_two (Path.endOf_definitions_ne path).symm h
    have hnode := FileTree.node?_of_read hread ((congrFun hentries path).trans hentry)
    -- the first file can be read, so nothing has gone from its place
    have hsome : node? w' e ≠ none := by
      show w'.disk.node? e ≠ none
      rw [hnode]
      exact Option.some_ne_none _
    obtain ⟨hfirst, hsecond⟩ := hin hsome
    have heq := hnode.symm.trans hfirst
    refine ⟨by simpa [OutputFile.bytes] using heq, ?_⟩
    rintro _ ⟨rfl⟩
    obtain ⟨other, hother⟩ := hdefinitions text hcases
    have hnode' :=
      FileTree.node?_of_read hother ((congrFun hentries path.definitions).trans hentry')
    have heq' := hnode'.symm.trans hsecond
    rw [hother]
    simpa [OutputFile.bytes] using heq'

/-! ### Both ways -/

/-- Whether an entry is that of the log file. -/
def Invocation.LogsAt (i : Invocation) (env : Environment) (w : World) (l : Location) : Prop :=
  ∃ p, i.logFile? env w = some p ∧ w.disk.entryOf? p = some l

namespace Invocation

variable (i : Invocation) (env : Environment) (w : World)

/-- Logging changes no file but the log file. -/
theorem logStable_sameBut :
    LogStable (i.logFile? env w) (SameBut (σ := World) (i.LogsAt env w) w) :=
  SameBut.logStable fun p hp _ hl => ⟨p, hp, hl⟩

/-- Logging prints nothing either. -/
theorem logStable_output : LogStable (i.logFile? env w) fun w' =>
    w'.output = w.output ∧ SameBut (σ := World) (i.LogsAt env w) w w' :=
  LogStable.and ⟨fun _ _ h => h, fun _ _ _ _ _ h _ => h⟩ (i.logStable_sameBut env w)

end Invocation

/-- A file that is there is still there when a line has gone to the log file. -/
theorem logStable_isFile (log : Option Path) (l : Location) :
    LogStable log fun w => ∃ content, w.disk.node? l = some (.file content) where
  report _ _ h := h
  append w p more t _ h happend := by
    obtain ⟨l', old, hopen, rfl⟩ := FileTree.exists_put_of_appendTo happend
    have hfree := (FileTree.openForWriting_ok hopen).2.1
    show ∃ content, (w.disk.put l' (.file (old ++ more))).node? l = some (.file content)
    rw [FileTree.node?_put _ (FileTree.ne_nil_of_node? hfree)]
    split
    · exact ⟨_, rfl⟩
    · exact h

/-- A configuration that is generated from a scan comes from a file that holds one. -/
theorem GenerateMode.exists_of_configuration {logger : Option Logger} {log : Option Path}
    {P : World → Prop} (h : LogStable log P) (hlogger : Logger.WritesTo logger log)
    {settings : GeneratorSettings} {path : Path} {configuration : String} {w w' : World} (hw : P w)
    (hrun : ((GenerateMode.discovery path).configuration logger settings : StateM World _).run w =
      (.ok (some configuration), w')) :
    ∃ w₁ d, P w₁ ∧ Discovery.ofFile path (w₁.disk.read path) = .ok d := by
  have hlogged := h.keeps_log hlogger
    (programRecord .info ("generating from discovery result " ++ path.display)) w hw
  rcases hrecord : (Logger.log logger (programRecord .info
    ("generating from discovery result " ++ path.display)) : StateM World Unit).run w with ⟨⟨⟩, w₁⟩
  rw [hrecord] at hlogged
  have hload : (Discovery.load path : StateM World _).run w₁ =
      (Discovery.ofFile path (w₁.disk.read path), w₁) := rfl
  rw [GenerateMode.configuration, ofDiscovery, bind_assoc, run_bind_of_eq hrecord, bind_assoc,
    run_bind_of_eq hload] at hrun
  rcases hfile : Discovery.ofFile path (w₁.disk.read path) with e | d
  · rw [hfile] at hrun
    cases hrun
  · exact ⟨w₁, d, hlogged, hfile⟩

/-- The path of the output plays no part in the preparation of a run.  If that fails, so does the
    run. -/
theorem Invocation.execute_of_prepare_error {o : CommonOptions} {g : GenerateOptions}
    {env : Environment} {terminal : Bool} {w w₁ : World} {e : Failure}
    (h : ((⟨o, .generate g⟩ : Invocation).prepare env terminal : StateM World _).run w =
      (.error e, w₁)) (output : Option Path) :
    (execute ⟨o, .generate { g with output }⟩ env terminal : StateM World _).run w =
      (.error e, w₁) := by
  have hsame : ((⟨o, .generate { g with output }⟩ : Invocation).prepare env terminal :
      StateM World _).run w = (.error e, w₁) := h
  rw [execute, run_bind_of_eq hsame]
  rfl

/-- After the preparation the path of the settings is logged, and then the documents are
    generated. -/
theorem Invocation.execute_of_prepare {o : CommonOptions} {g : GenerateOptions}
    {env : Environment} {terminal : Bool} {w w₁ w₂ : World} {s : Setup}
    (h : ((⟨o, .generate g⟩ : Invocation).prepare env terminal : StateM World _).run w =
      (.ok s, w₁))
    (hrecord : (Logger.log s.logger
      (programRecord .debug ("resolved paths: config: " ++ s.path.display)) :
        StateM World Unit).run w₁ = ((), w₂)) (output : Option Path) :
    (execute ⟨o, .generate { g with output }⟩ env terminal : StateM World _).run w =
      (s.generate o { g with output } : StateM World _).run w₂ := by
  have hsame : ((⟨o, .generate { g with output }⟩ : Invocation).prepare env terminal :
      StateM World _).run w = (.ok s, w₁) := h
  rw [execute, run_bind_of_eq hsame]
  exact run_bind_of_eq hrecord _

/-- What is asked for is generated the same way wherever it is to go: it fails, or there is a
    configuration to deliver.  On the way that keeps what logging keeps. -/
theorem Setup.run_generate_cases {s : Setup} {o : CommonOptions} {g : GenerateOptions}
    {log : Option Path} {P : World → Prop} {w : World} (hstable : LogStable log P)
    (hlogger : Logger.WritesTo s.logger log) (hw : P w) :
    ∃ w', P w' ∧
      ((∃ r, (∀ code, r = .ok code → code = .failure) ∧ ∀ output,
          (s.generate o { g with output } : StateM World _).run w = (r, w')) ∨
        ∃ configuration,
          (g.mode.configuration s.logger s.settings.generator : StateM World _).run w =
            (.ok (some configuration), w') ∧
          ∀ output, (s.generate o { g with output } : StateM World _).run w =
            (s.deliver o ⟨configuration, g.definitions⟩ output : StateM World _).run w') := by
  have hgenerated := hstable.keeps_configuration hlogger s.settings.generator g.mode w hw
  rcases hconfiguration : (g.mode.configuration s.logger s.settings.generator :
    StateM World _).run w with ⟨e | - | configuration, w'⟩
  · rw [hconfiguration] at hgenerated
    refine ⟨w', hgenerated, .inl ⟨.error e, nofun, fun output => ?_⟩⟩
    rw [Setup.generate]
    exact run_bind_of_eq hconfiguration _
  · -- without a configuration the way to ask for one is reported
    rw [hconfiguration] at hgenerated
    refine ⟨{ w' with errors := w'.errors ++ Command.help false [Program.command] },
      hstable.report w' _ hgenerated, .inl ⟨.ok .failure, ?_, fun output => ?_⟩⟩
    · rintro _ ⟨⟩
      rfl
    · rw [Setup.generate]
      exact run_bind_of_eq hconfiguration _
  · rw [hconfiguration] at hgenerated
    exact ⟨w', hgenerated, .inr ⟨configuration, rfl, fun output =>
      Setup.run_generate_of_configuration (g := { g with output }) hconfiguration⟩⟩

/-- Runs that differ only in the path of the output do the same until they deliver what they have
    generated, and also if they fail before that.  On the way they keep what logging keeps. -/
theorem Invocation.execute_generate {o : CommonOptions} {g : GenerateOptions} {env : Environment}
    {terminal : Bool} {w : World} {P : World → Prop}
    (hstable : LogStable ((⟨o, .generate g⟩ : Invocation).logFile? env w) P)
    (hprepared : P (((⟨o, .generate g⟩ : Invocation).prepare env terminal :
      StateM World _).run w).2) :
    ∃ w', P w' ∧
      ((∃ r, (∀ code, r = .ok code → code = .failure) ∧ ∀ output,
          (execute ⟨o, .generate { g with output }⟩ env terminal : StateM World _).run w =
            (r, w')) ∨
        ∃ (s : Setup) (w₁ : World) (configuration : String), P w₁ ∧
          Logger.WritesTo s.logger ((⟨o, .generate g⟩ : Invocation).logFile? env w) ∧
          (g.mode.configuration s.logger s.settings.generator : StateM World _).run w₁ =
            (.ok (some configuration), w') ∧
          ∀ output,
            (execute ⟨o, .generate { g with output }⟩ env terminal : StateM World _).run w =
              (s.deliver o ⟨configuration, g.definitions⟩ output : StateM World _).run w') := by
  rcases hprepare : ((⟨o, .generate g⟩ : Invocation).prepare env terminal :
    StateM World _).run w with ⟨e | s, w₁⟩
  · rw [hprepare] at hprepared
    exact ⟨w₁, hprepared, .inl ⟨.error e, nofun, execute_of_prepare_error hprepare⟩⟩
  · rw [hprepare] at hprepared
    have hlogger := (setup_of_prepare (congrArg Prod.fst hprepare)).2
    have hrecorded := hstable.keeps_log hlogger
      (programRecord .debug ("resolved paths: config: " ++ s.path.display)) w₁ hprepared
    rcases hrecord : (Logger.log s.logger
      (programRecord .debug ("resolved paths: config: " ++ s.path.display)) :
        StateM World Unit).run w₁ with ⟨⟨⟩, w₂⟩
    rw [hrecord] at hrecorded
    have hperform := execute_of_prepare hprepare hrecord
    obtain ⟨w', hw', ⟨r, hr, hruns⟩ | ⟨configuration, hconfiguration, hruns⟩⟩ :=
      Setup.run_generate_cases (o := o) hstable hlogger hrecorded
    · exact ⟨w', hw', .inl ⟨r, hr, fun output => (hperform output).trans (hruns output)⟩⟩
    · exact ⟨w', hw', .inr ⟨s, w₂, configuration, hrecorded, hlogger, hconfiguration,
        fun output => (hperform output).trans (hruns output)⟩⟩

namespace Setup

variable {s : Setup} {o : CommonOptions} {d : Documents}

/-- Documents that are printed stand behind what has been printed before. -/
theorem run_deliver_none (w : World) : (s.deliver o d none : StateM World _).run w =
    (.ok .success, { w with output := w.output ++ d.text }) := rfl

/-- Documents that go to a file are not printed, whether or not the run is dry. -/
theorem output_of_deliver (path : Path) (w : World) :
    ((s.deliver o d (some path) : StateM World _).run w).2.output = w.output := by
  have hlog : ∀ r, Keeps (fun w' : World => w'.output = w.output) (Logger.log s.logger r) := by
    intro r w' hw'
    obtain ⟨disk, errors, hrun⟩ := Logger.run_log s.logger r w'
    rw [hrun]
    exact hw'
  have hwrite : Keeps (fun w' : World => w'.output = w.output)
      (s.writeDocuments o d path : StateM World _) := by
    refine .ite (fun _ => ?_) fun _ => ?_
    · refine (hlog _).bind fun _ => ?_
      exact .ite (fun _ => (hlog _).bind fun _ => .pure _) fun _ => .pure _
    · intro w' hw'
      rw [← hw']
      exact d.output_of_write o.quiet path w'
  exact hwrite.bind (fun _ => .pure _) w rfl

/-- Documents that have been delivered to a file by a run that is not dry have been written. -/
theorem write_of_deliver {path : Path} {w w' : World} (hdry : o.dryRun = false)
    (h : (s.deliver o d (some path) : StateM World _).run w = (.ok .success, w')) :
    (d.write o.quiet path : StateM World _).run w = (.ok (), w') := by
  have hwrite : (s.writeDocuments o d path : StateM World _) = d.write o.quiet path :=
    s.writeDocuments_of_not_dryRun hdry d path
  rw [deliver, hwrite] at h
  rcases hrun : (d.write o.quiet path : StateM World _).run w with ⟨e | ⟨⟩, w₁⟩
  · rw [run_bind_of_eq hrun] at h
    cases h
  · rw [run_bind_of_eq hrun] at h
    cases h
    rfl

end Setup

namespace Program

/-- A run that fails before anything is delivered reports that and exits. -/
theorem exists_run_of_execute {r : Except Failure ExitCode} {w' : World}
    (hr : ∀ code, r = .ok code → code = .failure) :
    ∃ text, ∀ {words : List Bytes} {i : Invocation} {env : Environment} {terminal : Bool}
      {w : World}, Invocation.ofWords words = .ok i →
      (i.execute env terminal : StateM World _).run w = (r, w') →
        (run env terminal words : StateM World _).run w =
          (.failure, { w' with errors := w'.errors ++ text }) := by
  rcases r with e | code
  · refine ⟨e.report, fun hwords hexecute => ?_⟩
    rw [run_of_ofWords hwords, hexecute]
  · obtain rfl := hr code rfl
    refine ⟨"", fun hwords hexecute => ?_⟩
    rw [run_of_ofWords hwords, hexecute, String.append_empty]

/-- A run that prints its documents succeeds. -/
theorem run_of_deliver_none {words : List Bytes} {i : Invocation} {env : Environment}
    {terminal : Bool} {w w' : World} {s : Setup} {d : Documents}
    (hwords : Invocation.ofWords words = .ok i)
    (hexecute : (i.execute env terminal : StateM World _).run w =
      (s.deliver i.common d none : StateM World _).run w') :
    (run env terminal words : StateM World _).run w =
      (.success, { w' with output := w'.output ++ d.text }) := by
  rw [run_of_ofWords hwords, hexecute, Setup.run_deliver_none]

/-- A run that writes its documents prints nothing, and has written them if it succeeds. -/
theorem run_of_deliver_some {words : List Bytes} {i : Invocation} {env : Environment}
    {terminal : Bool} {w w' w₁ : World} {s : Setup} {d : Documents} {path : Path} {code : ExitCode}
    (hwords : Invocation.ofWords words = .ok i)
    (hexecute : (i.execute env terminal : StateM World _).run w =
      (s.deliver i.common d (some path) : StateM World _).run w')
    (hrun : (run env terminal words : StateM World _).run w = (code, w₁)) :
    w₁.output = w'.output ∧ (code = .success → i.common.dryRun = false →
      (d.write i.common.quiet path : StateM World _).run w' = (.ok (), w₁)) := by
  have houtput := s.output_of_deliver (o := i.common) (d := d) path w'
  rw [run_of_ofWords hwords, hexecute] at hrun
  rcases hdeliver : (s.deliver i.common d (some path) : StateM World _).run w' with ⟨e | code', w''⟩
  · rw [hdeliver] at hrun houtput
    cases hrun
    exact ⟨houtput, nofun⟩
  · rw [hdeliver] at hrun houtput
    cases hrun
    refine ⟨houtput, ?_⟩
    rintro rfl hdry
    exact Setup.write_of_deliver hdry hdeliver

/-- A discovery file that is not the log file is read as it was before the run. -/
theorem exists_ofFile_of_configuration {i : Invocation} {env : Environment} {w w₁ w' : World}
    {s : Setup} {file : Path} {configuration : String}
    (hlogger : Logger.WritesTo s.logger (i.logFile? env w))
    (hsame : SameBut (σ := World) (i.LogsAt env w) w w₁)
    (hfile : ∀ l, w.disk.entryOf? file = some l → ¬ i.LogsAt env w l)
    (hrun : ((GenerateMode.discovery file).configuration s.logger s.settings.generator :
      StateM World _).run w₁ = (.ok (some configuration), w')) :
    ∃ d, Discovery.ofFile file (w.disk.read file) = .ok d := by
  obtain ⟨w₂, d, hsame₂, hd⟩ := GenerateMode.exists_of_configuration
    (i.logStable_sameBut env w) hlogger hsame hrun
  rcases hread : w₂.disk.read file with e | content
  · rw [hread] at hd
    cases e <;> cases hd
  · rw [(hsame₂.read_eq_ok_iff hfile).1 hread, ← hread]
    exact ⟨d, hd⟩

/-- A run that fails at its discovery file has opened its log file before. -/
theorem exists_log_of_fault {o : CommonOptions} {g : GenerateOptions} {words : List Bytes}
    {env : Environment} {terminal : Bool} {w : World} {file log : Path} {l : Location} {old : Bytes}
    (hwords : Invocation.ofWords words = .ok ⟨o, .generate g⟩) (hmode : g.mode = .discovery file)
    (hlog : (⟨o, .generate g⟩ : Invocation).logFile? env w = some log)
    (hopen : w.disk.openForWriting log = .ok (l, old)) (hfile : w.disk.entryOf? file ≠ some l)
    (hnone : ∀ d, Discovery.ofFile file (w.disk.read file) ≠ .ok d) :
    ∃ w₁ content, (run env terminal words : StateM World _).run w = (.failure, w₁) ∧
      w₁.disk.node? l = some (.file content) := by
  have hstable := ((⟨o, .generate g⟩ : Invocation).logStable_sameBut env w).and
    (logStable_isFile ((⟨o, .generate g⟩ : Invocation).logFile? env w) l)
  -- the log file is there as soon as it has been opened
  have hprepared : ∃ content, (((⟨o, .generate g⟩ : Invocation).prepare env terminal :
      StateM World _).run w).2.disk.node? l = some (.file content) := by
    obtain ⟨s, w', hrun, hlogged⟩ | ⟨e, w', -, -, hno | ⟨p, e, hp, hrefused⟩⟩ :=
      (⟨o, .generate g⟩ : Invocation).prepare_logged env terminal w
    · rw [hlog] at hlogged
      obtain ⟨more, hthere⟩ := hlogged.exists_node? hopen
      rw [hrun]
      exact ⟨_, hthere⟩
    · rw [hlog] at hno
      cases hno
    · obtain rfl := Option.some.inj (hlog.symm.trans hp)
      rw [hopen] at hrefused
      cases hrefused
  -- the source is another file, so it still says the same
  have hapart : ∀ e, w.disk.entryOf? file = some e →
      ¬ (⟨o, .generate g⟩ : Invocation).LogsAt env w e := by
    rintro e he ⟨p, hp, hl⟩
    obtain rfl := Option.some.inj (hlog.symm.trans hp)
    rw [(FileTree.openForWriting_ok hopen).1] at hl
    exact hfile (he.trans hl.symm)
  obtain ⟨w', ⟨-, content, hthere⟩,
    ⟨r, hr, hruns⟩ | ⟨s, w₁, _, ⟨hsame, -⟩, hlogger, hgenerated, -⟩⟩ :=
    Invocation.execute_generate hstable
      ⟨Invocation.keeps_prepare terminal (Invocation.logStable_sameBut _ env w) (.refl _ _),
        hprepared⟩
  · obtain ⟨text, htext⟩ := exists_run_of_execute hr
    exact ⟨_, content, htext hwords (hruns g.output), hthere⟩
  · rw [hmode] at hgenerated
    obtain ⟨d, hd⟩ := exists_ofFile_of_configuration hlogger hsame hapart hgenerated
    exact absurd hd (hnone d)

/-- Two runs that differ only in whether their documents are written or printed.  First, the one
    that writes prints nothing.  Second, if it succeeds and the documents can be read where they
    are, the other one succeeds and prints them, with the heading between them, at which they can be
    cut apart again.  Third, where there is nothing to print, both fail in the same state, in which
    only the log file may differ.  Fourth, that is so if not enough is asked for, and also for a
    discovery file that is missing or malformed, unless log lines go there. -/
theorem run_written_printed {o : CommonOptions} {g : GenerateOptions} {path : Path}
    {written printed : List Bytes} {env : Environment} {terminal : Bool} {w w₁ w₂ : World}
    {code code' : ExitCode}
    (hwritten : Invocation.ofWords written = .ok ⟨o, .generate { g with output := some path }⟩)
    (hprinted : Invocation.ofWords printed = .ok ⟨o, .generate { g with output := none }⟩)
    (hrun : (run env terminal written : StateM World _).run w = (code, w₁))
    (hrun' : (run env terminal printed : StateM World _).run w = (code', w₂)) :
    let i : Invocation := ⟨o, .generate g⟩
    w₁.output = w.output ∧
    (code = .success → o.dryRun = false → code' = .success ∧
      (g.dids = false → ∀ content, w₁.disk.read path = .ok content →
        ∃ configuration, content = Text.encodeUtf8 configuration ∧
          w₂.output = w.output ++ configuration ++ "\n") ∧
      (g.dids = true → ∀ content content', w₁.disk.read path = .ok content →
        w₁.disk.read path.definitions = .ok content' →
          ∃ configuration definitions text, content = Text.encodeUtf8 configuration ∧
            content' = Text.encodeUtf8 definitions ∧ w₂.output = w.output ++ text ∧
            text = configuration ++ "\n" ++ "\n" ++ Documents.definitionsHeading ++ "\n\n" ++
              definitions ++ "\n" ∧
            Documents.cut? text = some (configuration, definitions))) ∧
    (code' ≠ .success → code = .failure ∧ code' = .failure ∧ w₂ = w₁ ∧
      w₁.disk.entryOf? = w.disk.entryOf? ∧
      ∀ l, ¬ i.LogsAt env w l → w₁.disk.node? l = w.disk.node? l) ∧
    (g.mode = .usage → code' ≠ .success) ∧
    (∀ file, g.mode = .discovery file →
      (∀ l, w.disk.entryOf? file = some l → ¬ i.LogsAt env w l) →
      (∀ d, Discovery.ofFile file (w.disk.read file) ≠ .ok d) → code' ≠ .success) := by
  intro i
  obtain ⟨w', ⟨hout, hsame⟩, hcase⟩ := Invocation.execute_generate (i.logStable_output env w)
    (i.keeps_prepare terminal (i.logStable_output env w) ⟨rfl, .refl _ _⟩)
  rcases hcase with ⟨r, hr, hruns⟩ | ⟨s, w₃, configuration, ⟨-, hsame₃⟩, hlogger, hgenerated, hruns⟩
  -- both runs end before there is a configuration
  · obtain ⟨text, htext⟩ := exists_run_of_execute hr
    rw [htext hwritten (hruns _)] at hrun
    rw [htext hprinted (hruns _)] at hrun'
    cases hrun
    cases hrun'
    exact ⟨hout, nofun, fun _ => ⟨rfl, rfl, rfl, hsame.entries, hsame.nodes⟩, fun _ => nofun,
      fun _ _ _ _ => nofun⟩
  · obtain ⟨hsilent, hdone⟩ := run_of_deliver_some hwritten (hruns _) hrun
    rw [run_of_deliver_none hprinted (hruns _)] at hrun'
    cases hrun'
    refine ⟨hsilent.trans hout, fun hcode hdry => ⟨rfl, ?_, ?_⟩, absurd rfl, ?_, ?_⟩
    · intro hdids content hread
      have hnone : g.definitions = none := by simp [GenerateOptions.definitions, hdids]
      obtain ⟨rfl, -⟩ := Documents.read_of_write (hdone hcode hdry) hread (by simp [hnone])
      refine ⟨configuration, rfl, ?_⟩
      simp [Documents.text, hnone, hout, String.append_assoc]
    · intro hdids content content' hread hread'
      have hsome : g.definitions = some (Definition.document !g.noDidExamples) := by
        simp [GenerateOptions.definitions, hdids]
      obtain ⟨rfl, hdefinitions⟩ :=
        Documents.read_of_write (hdone hcode hdry) hread fun _ _ => ⟨content', hread'⟩
      have hcontent' := hread'.symm.trans (hdefinitions _ hsome)
      refine ⟨configuration, _, (⟨configuration, g.definitions⟩ : Documents).text, rfl,
        Except.ok.inj hcontent', congrArg (· ++ _) hout, ?_, ?_⟩
      · simp only [Documents.text, hsome, String.append_assoc]
      · exact Documents.cut?_text hsome (Definition.heading_not_mem_linesOf _)
    · intro hmode
      rw [hmode] at hgenerated
      cases hgenerated
    · intro file hmode hfile hnone
      rw [hmode] at hgenerated
      obtain ⟨d, hd⟩ := exists_ofFile_of_configuration hlogger hsame₃ hfile hgenerated
      exact absurd hd (hnone d)

/-- For one, a configuration with its definitions. -/
theorem run_written_printed_short :
    let written := ["-q", "-n", "x", "-t", "0x1", "-r", "0x2", "--dids", "-o", "x.toml"].map
      Text.encodeUtf8
    let printed := ["-q", "-n", "x", "-t", "0x1", "-r", "0x2", "--dids"].map Text.encodeUtf8
    let env : Environment := { bindings := [(Text.encodeUtf8 "HOME", Text.encodeUtf8 "/home")] }
    let w : World := { disk := ⟨[], []⟩ }
    ∃ w₁ w₂ configuration definitions,
      (run env false written : StateM World _).run w = (.success, w₁) ∧
      (run env false printed : StateM World _).run w = (.success, w₂) ∧
      w₁.disk.read (.ofText "x.toml") = .ok (Text.encodeUtf8 configuration) ∧
      w₁.disk.read (.ofText "x-dids.yaml") = .ok (Text.encodeUtf8 definitions) ∧
      w₁.output = "" ∧ Documents.cut? w₂.output = some (configuration, definitions) := by
  intro written printed env w
  let path : Path := .ofText "x.toml"
  let o : CommonOptions := { quiet := true }
  let g : GenerateOptions :=
    { name := some "x", txId := some "0x1", rxId := some "0x2", dids := true }
  have hwritten : Invocation.ofWords written =
      .ok ⟨o, .generate { g with output := some path }⟩ := by rfl
  have hprinted : Invocation.ofWords printed =
      .ok ⟨o, .generate { g with output := none }⟩ := by rfl
  have hcode : ((run env false written : StateM World _).run w).1 = .success := by decide +kernel
  have hpath : path.definitions = .ofText "x-dids.yaml" := by decide +kernel
  have hthere :
      (((run env false written : StateM World _).run w).2.disk.read path).toOption.isSome ∧
      (((run env false written : StateM World _).run w).2.disk.read
        path.definitions).toOption.isSome := by decide +kernel
  rcases hrun : (run env false written : StateM World _).run w with ⟨code, w₁⟩
  rcases hrun' : (run env false printed : StateM World _).run w with ⟨code', w₂⟩
  rw [hrun] at hcode hthere
  obtain rfl : code = .success := hcode
  obtain ⟨⟨content, hcontent⟩, content', hcontent'⟩ :=
    hthere.imp Option.isSome_iff_exists.1 Option.isSome_iff_exists.1
  obtain ⟨hsilent, hdone, -⟩ := run_written_printed hwritten hprinted hrun hrun'
  obtain ⟨rfl, -, hboth⟩ := hdone rfl rfl
  obtain ⟨configuration, definitions, text, rfl, rfl, htext, -, hcut⟩ :=
    hboth rfl content content' (toOption_eq_some_iff.1 hcontent) (toOption_eq_some_iff.1 hcontent')
  have hprint : w₂.output = text := by rw [htext, String.empty_append]
  rw [hpath] at hcontent'
  refine ⟨w₁, w₂, configuration, definitions, rfl, rfl, toOption_eq_some_iff.1 hcontent,
    toOption_eq_some_iff.1 hcontent', hsilent, ?_⟩
  rw [hprint, hcut]

/-- A run that fails before it delivers anything makes its log file, also if its output is to go
    there. -/
theorem run_written_log :
    let words := ["-d", "missing.json", "-o", "out.toml"].map Text.encodeUtf8
    let env : Environment :=
      { bindings := [("HOME", "/home"), ("ECUCFG__LOGGING__FILE", "out.toml")].map
          fun (name, value) => (Text.encodeUtf8 name, Text.encodeUtf8 value) }
    let w : World := { disk := ⟨[], []⟩ }
    let l : Location := [Text.encodeUtf8 "out.toml"]
    w.disk.read (.ofText "missing.json") = .error .notFound ∧
      w.disk.entryOf? (.ofText "out.toml") = some l ∧ w.disk.node? l = none ∧
      ∃ w₁ content, (run env false words : StateM World _).run w = (.failure, w₁) ∧
        w₁.disk.node? l = some (.file content) := by
  intro words env w l
  let g : GenerateOptions :=
    { fromDiscovery := some (.ofText "missing.json"), output := some (.ofText "out.toml") }
  have hwords : Invocation.ofWords words = .ok ⟨{}, .generate g⟩ := by rfl
  have hmissing : w.disk.read (.ofText "missing.json") = .error .notFound := by rfl
  have hlog : (⟨{}, .generate g⟩ : Invocation).logFile? env w = some (.ofText "out.toml") := by
    decide +kernel
  have hopen : w.disk.openForWriting (.ofText "out.toml") = .ok (l, []) := by rfl
  have hnone : ∀ d, Discovery.ofFile (.ofText "missing.json")
      (w.disk.read (.ofText "missing.json")) ≠ .ok d := by
    rw [hmissing]
    exact fun _ => nofun
  have hmode : g.mode = .discovery (.ofText "missing.json") := by decide +kernel
  exact ⟨hmissing, (FileTree.openForWriting_ok hopen).1, rfl,
    exists_log_of_fault hwords hmode hlog hopen (by decide +kernel) hnone⟩

end Program

end SovdConfig
