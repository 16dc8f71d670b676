import SovdConfig.Command.Run
import SovdConfig.Proofs.Command.Committing
import SovdConfig.Proofs.Disk.Tree

namespace SovdConfig

/-!
# Writing documents to files

What a run that writes its documents does to the files, on every lawful file system.  Main
definitions:

* `FreshNames` — temporary files are not where files are to be.

Main statements:

* `writeAll_of_firstRefused`, `writeAll_of_staging`, `writeAll_of_ok` — writing several files;
* `Setup.writeDocuments_exact` — a file that cannot be made ready leaves everything as it was, and
  success puts exactly the documents in place;
* `Setup.writeDocuments_commit_error` — a file that is ready and cannot take its place leaves those
  before it in theirs.
-/

open DiskView

/-- Without a dry run the files for the documents are written. -/
theorem Setup.writeDocuments_of_not_dryRun {σ : Type} [Disk (StateM σ)] [Console (StateM σ)]
    (setup : Setup) {o : CommonOptions} (hdry : o.dryRun = false) (d : Documents) (path : Path) :
    (setup.writeDocuments o d path : StateM σ _) =
      OutputFile.writeAll o.quiet (d.files path) := by
  rw [Setup.writeDocuments, hdry]
  rfl

section

variable {σ : Type} [Disk (StateM σ)] [DiskView σ]

/-- Whether the temporary files for some files are never made where one of them is to be. -/
def FreshNames (files : List OutputFile) (s : σ) : Prop :=
  ∀ ⦃ts s'⦄, Staging files s ts s' → ∀ t ∈ ts, ∀ f ∈ files, target? s f.path ≠ some (temporary t)

/-- As many temporary files are made as there are files. -/
theorem Staging.length_eq {files : List OutputFile} {s s' : σ}
    {ts : List (Disk.Staged (StateM σ))} (h : Staging files s ts s') :
    ts.length = files.length := by
  induction h with
  | nil => rfl
  | cons _ _ ih => rw [List.length_cons, List.length_cons, ih]

/-- Of the files for documents the configuration is refused first, or it is made ready and the
    definitions are refused. -/
theorem Documents.firstRefused_cases {d : Documents} {path : Path} {s : σ} {f : OutputFile}
    {e : Failure} (h : FirstRefused (d.files path) s f e) :
    f = ⟨"Config", "config", path, d.configuration⟩ ∨
      ∃ definitions t s₁, d.definitions = some definitions ∧
        f = ⟨"DIDs", "DIDs", path.definitions, definitions⟩ ∧
        OutputFile.Accepted ⟨"Config", "config", path, d.configuration⟩ s t s₁ := by
  cases hdefinitions : d.definitions with
  | none =>
    rw [files_of_none hdefinitions] at h
    cases h with
    | here _ => exact .inl rfl
    | later _ hnone => cases hnone
  | some definitions =>
    rw [files_of_some hdefinitions] at h
    cases h with
    | here _ => exact .inl rfl
    | later haccepted hlater =>
      cases hlater with
      | here _ => exact .inr ⟨definitions, _, _, rfl, rfl, haccepted⟩
      | later _ hnone => cases hnone

variable [Console (StateM σ)] [LawfulDisk σ]

/-- Files that staging answers have been made ready. -/
theorem exists_staging {files : List OutputFile} {s : σ} {ts : List (Disk.Staged (StateM σ))}
    (h : ((OutputFile.stageAll files : StateM σ _).run s).1 = .ok ts) :
    ∃ s₁, Staging files s ts s₁ := by
  rcases firstRefused_or_staging files s with ⟨f, e, hrefused⟩ | ⟨ts', s₁, hstaging⟩
  · obtain ⟨s', hrun, -⟩ := stageAll_of_firstRefused hrefused
    rw [hrun] at h
    cases h
  · rw [stageAll_of_staging hstaging] at h
    cases h
    exact ⟨s₁, hstaging⟩

/-- The names of temporary files are fresh if those are that staging answers. -/
theorem freshNames_of_stageAll {files : List OutputFile} {s : σ}
    {ts : List (Disk.Staged (StateM σ))}
    (h : ((OutputFile.stageAll files : StateM σ _).run s).1 = .ok ts)
    (hapart : ∀ t ∈ ts, ∀ f ∈ files, target? s f.path ≠ some (temporary t)) :
    FreshNames files s := by
  intro ts' s₁ hstaging
  rw [stageAll_of_staging hstaging] at h
  cases h
  exact hapart

/-! ### Several files -/

/-- If a file is refused, its failure is the answer and nothing has changed. -/
theorem writeAll_of_firstRefused {files : List OutputFile} {s : σ} {f : OutputFile} {e : Failure}
    (quiet : Bool) (h : FirstRefused files s f e) :
    ∃ s', (OutputFile.writeAll quiet files : StateM σ _).run s = (.error e, s') ∧
      Becomes s s' (node? s) := by
  obtain ⟨s', hrun, hsame⟩ := stageAll_of_firstRefused h
  refine ⟨s', ?_, hsame⟩
  rw [OutputFile.writeAll, run_bind_of_eq hrun]
  rfl

/-- Files that are all made ready take their places until one of them cannot. -/
theorem writeAll_of_staging {files : List OutputFile} {s s₁ : σ}
    {ts : List (Disk.Staged (StateM σ))} (quiet : Bool) (h : Staging files s ts s₁)
    (hfresh : FreshNames files s) :
    ∃ placed r s', (OutputFile.writeAll quiet files : StateM σ _).run s = (r, s') ∧
      Placing (target? s) (node? s) files placed r (node? s') ∧
      target? s' = target? s ∧ isDirectory s' = isDirectory s ∧
      errors s' = errors s ++ OutputFile.notices quiet placed := by
  obtain ⟨hready, hbecomes⟩ := h.ready
  have hapart : ∀ p ∈ files.zip ts, ∀ q ∈ files.zip ts,
      target? s₁ p.1.path ≠ some (temporary q.2) := by
    intro p hp q hq
    rw [hbecomes.entries]
    exact hfresh h q.2 (List.of_mem_zip hq).2 p.1 (List.of_mem_zip hp).1
  obtain ⟨placed, r, s', hrun, hplacing, hentries, hdirectories, herrors⟩ :=
    commitAll_run quiet hready hapart
  rw [hbecomes.entries, List.map_fst_zip (Nat.le_of_eq h.length_eq.symm)] at hplacing
  refine ⟨placed, r, s', ?_, hplacing, hentries.trans hbecomes.entries,
    hdirectories.trans hbecomes.directories, ?_⟩
  · rw [OutputFile.writeAll, run_bind_of_eq (stageAll_of_staging h)]
    exact hrun
  · rw [herrors, hbecomes.errors]

/-- After a success each file is in its place and reported, and everything else is as it was. -/
theorem writeAll_of_ok {files : List OutputFile} {s s' : σ} {quiet : Bool}
    (hfresh : FreshNames files s)
    (hnames : files.Pairwise fun f g => Path.endOf f.path.bytes ≠ Path.endOf g.path.bytes)
    (hrun : (OutputFile.writeAll quiet files : StateM σ _).run s = (.ok (), s')) :
    target? s' = target? s ∧
      (∀ f ∈ files, ∃ e, target? s f.path = some e ∧ nameOf e = Path.endOf f.path.bytes ∧
        node? s' e = some (.file f.bytes)) ∧
      (∀ e, (∀ f ∈ files, target? s f.path ≠ some e) → node? s' e = node? s e) ∧
      errors s' = errors s ++ OutputFile.notices quiet files := by
  rcases firstRefused_or_staging files s with ⟨f, e, hrefused⟩ | ⟨ts, s₁, hstaging⟩
  · obtain ⟨s₂, hfailed, -⟩ := writeAll_of_firstRefused quiet hrefused
    rw [hfailed] at hrun
    cases hrun
  · obtain ⟨placed, r, s₂, hdone, hplacing, hentries, -, herrors⟩ :=
      writeAll_of_staging quiet hstaging hfresh
    rw [hdone] at hrun
    cases hrun
    obtain ⟨rfl, hcontent, hothers⟩ := hplacing.of_ok rfl hnames
    exact ⟨hentries, hcontent, hothers, herrors⟩

/-- A run that fails after all of its files have been made ready: the failure is that of a file that
    cannot take its place, and the files before it are in theirs. -/
theorem writeAll_of_error {files : List OutputFile} {s s₁ s' : σ}
    {ts : List (Disk.Staged (StateM σ))} {quiet : Bool} {e : Failure}
    (h : Staging files s ts s₁) (hfresh : FreshNames files s)
    (hrun : (OutputFile.writeAll quiet files : StateM σ _).run s = (.error e, s')) :
    ∃ placed f rest cause, files = placed ++ f :: rest ∧ e = .committing f.noun f.path cause ∧
      Placing (target? s) (node? s) placed placed (.ok ()) (node? s') ∧
      target? s' = target? s ∧ isDirectory s' = isDirectory s ∧
      errors s' = errors s ++ OutputFile.notices quiet placed := by
  obtain ⟨placed, r, s₂, hdone, hplacing, hentries, hdirectories, herrors⟩ :=
    writeAll_of_staging quiet h hfresh
  rw [hdone] at hrun
  cases hrun
  obtain ⟨f, rest, cause, hfiles, he, hplaced⟩ := hplacing.of_error rfl
  exact ⟨placed, f, rest, cause, hfiles, he, hplaced, hentries, hdirectories, herrors⟩

end

/-! ### A world without files -/

instance : DecidableEq (Disk.Staged (StateM World)) := inferInstanceAs (DecidableEq Location)

/-- Answers of runs are compared as answers or as failures. -/
instance decidableEqExcept {ε α : Type} [DecidableEq ε] [DecidableEq α] :
    DecidableEq (Except ε α)
  | .ok a, .ok b => decidable_of_iff (a = b) ⟨congrArg _, Except.ok.inj⟩
  | .error e, .error e' => decidable_of_iff (e = e') ⟨congrArg _, Except.error.inj⟩
  | .ok _, .error _ => isFalse nofun
  | .error _, .ok _ => isFalse nofun

/-- A world without files. -/
def World.empty : World := { disk := ⟨[], []⟩ }

/-- The first two temporary files in the directory of such a world. -/
def World.firstTemporaries : List (Disk.Staged (StateM World)) :=
  ([[FileTree.temporaryName 0], [FileTree.temporaryName 1]] : List Location)

/-- Two short documents. -/
def Documents.short : Documents := ⟨"[ecu]\n", some "dids:\n"⟩

/-- A setup without a configuration file. -/
def Setup.plain : Setup := ⟨.ofText "", {}, none⟩

/-- The files of two short documents get fresh names in a world without files. -/
theorem freshNames_short :
    FreshNames (Documents.short.files (.ofText "ecu.toml")) World.empty := by
  have hstage : ((OutputFile.stageAll (Documents.short.files (.ofText "ecu.toml")) :
      StateM World _).run World.empty).1 = .ok World.firstTemporaries := by decide +kernel
  have hapart : ∀ t ∈ World.firstTemporaries,
      ∀ f ∈ Documents.short.files (.ofText "ecu.toml"),
        target? World.empty f.path ≠ some (temporary t) := by decide +kernel
  exact freshNames_of_stageAll hstage hapart

/-- A name of one letter over and over. -/
def Path.repeated (n : Nat) : Path := .ofText (String.ofList (List.replicate n 'a'))

/-- Each letter is a byte. -/
theorem Path.repeated_eq (n : Nat) : repeated n = ⟨List.replicate n 97⟩ := by
  rw [repeated, ofText, Text.encodeUtf8, String.toList_ofList, List.flatMap_replicate]
  exact congrArg Path.mk List.flatten_replicate_singleton

/-- The definitions have a name that is longer by the ending. -/
theorem Path.definitions_repeated (n : Nat) :
    (repeated n).definitions = ⟨List.replicate n 97 ++ endingBytes⟩ := by
  have hending : ¬ configurationEnding.toList.isSuffixOf (List.replicate n 'a') := by
    intro h
    have hmem : 't' ∈ List.replicate n 'a' :=
      (List.isSuffixOf_iff_suffix.1 h).subset (by decide)
    exact absurd (List.eq_of_mem_replicate hmem) (by decide)
  have hbytes : Text.encodeUtf8 (String.ofList (List.replicate n 'a')) = List.replicate n 97 :=
    congrArg Path.bytes (repeated_eq n)
  rw [repeated, definitions, display_ofText, String.toList_ofList, dropEnding, if_neg hending,
    String.ofList_append, String.ofList_toList, ofText, Text.encodeUtf8_append, hbytes, endingBytes]

/-- The files of two short documents with such a name. -/
theorem files_repeated (n : Nat) :
    Documents.short.files (.repeated n) =
      [⟨"Config", "config", ⟨List.replicate n 97⟩, "[ecu]\n"⟩,
        ⟨"DIDs", "DIDs", ⟨List.replicate n 97 ++ Path.endingBytes⟩, "dids:\n"⟩] := by
  rw [Documents.files_of_some rfl, Path.definitions_repeated, Path.repeated_eq]
  rfl

/-- They are both made ready. -/
theorem stageAll_repeated :
    ((OutputFile.stageAll (Documents.short.files (.repeated 250)) :
      StateM World _).run World.empty).1 = .ok World.firstTemporaries := by
  rw [files_repeated]
  decide +kernel

/-- They get fresh names. -/
theorem freshNames_repeated :
    FreshNames (Documents.short.files (.repeated 250)) World.empty := by
  apply freshNames_of_stageAll stageAll_repeated
  rw [files_repeated]
  decide +kernel

/-- The definitions cannot take their place as their name is too long, and the configuration is left
    without them. -/
theorem writeAll_repeated :
    ∃ w, (OutputFile.writeAll true (Documents.short.files (.repeated 250)) :
        StateM World _).run World.empty =
          (.error (.committing "DIDs" (Path.repeated 250).definitions .nameTooLong), w) ∧
      node? w [List.replicate 250 97] =
        some (.file (Text.encodeUtf8 Documents.short.configuration)) := by
  rw [files_repeated, Path.definitions_repeated]
  have hanswer : ((OutputFile.writeAll true
      [⟨"Config", "config", ⟨List.replicate 250 97⟩, "[ecu]\n"⟩,
        ⟨"DIDs", "DIDs", ⟨List.replicate 250 97 ++ Path.endingBytes⟩, "dids:\n"⟩] :
      StateM World _).run World.empty).1 =
        .error (.committing "DIDs" ⟨List.replicate 250 97 ++ Path.endingBytes⟩ .nameTooLong) := by
    decide +kernel
  exact exists_run_eq hanswer (by decide +kernel)

/-! ### The documents -/

section

variable {σ : Type} [Disk (StateM σ)] [DiskView σ] [Console (StateM σ)] [LawfulDisk σ]

/-- The files of documents have different names. -/
theorem Documents.pairwise_files (d : Documents) (path : Path) :
    (d.files path).Pairwise fun f g => Path.endOf f.path.bytes ≠ Path.endOf g.path.bytes := by
  cases hdefinitions : d.definitions with
  | none => simp [files_of_none hdefinitions]
  | some text =>
    have hne := Path.endOf_definitions_ne path
    simp [files_of_some hdefinitions, hne.symm]

/-- The files of documents with definitions, when some of them come before another one. -/
theorem Documents.files_eq_append {d : Documents} {definitions : String} {path : Path}
    {before after : List OutputFile} {f : OutputFile}
    (hdefinitions : d.definitions = some definitions) (h : d.files path = before ++ f :: after) :
    (before = [] ∧ f = ⟨"Config", "config", path, d.configuration⟩) ∨
      before = [⟨"Config", "config", path, d.configuration⟩] ∧
        f = ⟨"DIDs", "DIDs", path.definitions, definitions⟩ := by
  rw [files_of_some hdefinitions] at h
  cases before with
  | nil => exact .inl ⟨rfl, (List.cons.inj h).1.symm⟩
  | cons g before =>
    obtain ⟨rfl, htail⟩ := List.cons.inj h
    cases before with
    | nil => exact .inr ⟨rfl, (List.cons.inj htail).1.symm⟩
    | cons _ _ => simp at htail

/-- What is reported of the files for documents. -/
theorem Documents.notices_files (d : Documents) (quiet : Bool) (path : Path) :
    OutputFile.notices quiet (d.files path) =
      if quiet then "" else OutputFile.notice "Config" path ++
        if d.definitions.isSome then OutputFile.notice "DIDs" path.definitions else "" := by
  cases hdefinitions : d.definitions with
  | none => simp [files_of_none hdefinitions, OutputFile.notices]
  | some text => simp [files_of_some hdefinitions, OutputFile.notices, String.join_cons]

/-- Writing documents without a dry run is all or nothing as long as files are made ready, and exact
    if it succeeds.  First, a directory at the path of the configuration, or at that of the
    definitions if there are any, makes a file be refused.  Second, if a file is refused, it is the
    configuration, or else the definitions after the configuration has been made ready; its failure
    is the answer, it names the file, and nothing has changed or been reported.  Third, after a
    success the configuration is at its path and the definitions, if there are any, are at theirs,
    at entries of their own with exactly their texts; every other entry is as it was, so that no
    temporary file is left; and exactly these files are reported, the configuration first. -/
theorem Setup.writeDocuments_exact (setup : Setup) (o : CommonOptions) (d : Documents)
    (path : Path) (s : σ) (hdry : o.dryRun = false) :
    (isDirectory s path = true ∨ d.definitions.isSome ∧ isDirectory s path.definitions = true →
      ∃ f e, FirstRefused (d.files path) s f e) ∧
    (∀ f e, FirstRefused (d.files path) s f e →
      (f = ⟨"Config", "config", path, d.configuration⟩ ∨
        ∃ definitions t s₁, d.definitions = some definitions ∧
          f = ⟨"DIDs", "DIDs", path.definitions, definitions⟩ ∧
          OutputFile.Accepted ⟨"Config", "config", path, d.configuration⟩ s t s₁) ∧
      ∃ s', (setup.writeDocuments o d path : StateM σ _).run s = (.error e, s') ∧
        (∃ outermost causes more, e.chain = outermost :: causes ∧
          outermost = Failure.writing f.noun f.path ++ more) ∧
        Becomes s s' (node? s)) ∧
    (FreshNames (d.files path) s → ∀ s',
      (setup.writeDocuments o d path : StateM σ _).run s = (.ok (), s') →
      (∃ e, target? s' path = some e ∧
        node? s' e = some (.file (Text.encodeUtf8 d.configuration))) ∧
      (∀ definitions, d.definitions = some definitions →
        target? s' path ≠ target? s' path.definitions ∧
        ∃ e, target? s' path.definitions = some e ∧
          node? s' e = some (.file (Text.encodeUtf8 definitions))) ∧
      (∀ e, target? s' path ≠ some e →
        (d.definitions.isSome → target? s' path.definitions ≠ some e) →
          node? s' e = node? s e) ∧
      target? s' = target? s ∧
      errors s' = errors s ++
        if o.quiet then "" else OutputFile.notice "Config" path ++
          if d.definitions.isSome then OutputFile.notice "DIDs" path.definitions else "") := by
  rw [setup.writeDocuments_of_not_dryRun hdry d path]
  refine ⟨?_, fun f e hrefused => ⟨Documents.firstRefused_cases hrefused, ?_⟩, ?_⟩
  · obtain ⟨hconfiguration, hdefinitions⟩ :=
      Documents.forall_mem_files.1 fun f hf => firstRefused_of_isDirectory (s := s) hf
    rintro (hdirectory | ⟨hsome, hdirectory⟩)
    · exact hconfiguration hdirectory
    · obtain ⟨definitions, hdocument⟩ := Option.isSome_iff_exists.1 hsome
      exact hdefinitions definitions hdocument hdirectory
  · obtain ⟨s', hrun, hsame⟩ := writeAll_of_firstRefused o.quiet hrefused
    exact ⟨s', hrun, hrefused.names, hsame⟩
  · intro hfresh s' hrun
    obtain ⟨hentries, hcontent, hothers, herrors⟩ :=
      writeAll_of_ok hfresh (d.pairwise_files path) hrun
    obtain ⟨⟨e, hentry, hname, hnode⟩, hdefinitions⟩ := Documents.forall_mem_files.1 hcontent
    rw [hentries, ← d.notices_files]
    refine ⟨⟨e, hentry, hnode⟩, fun definitions hsome => ?_, fun e he he' => ?_, rfl, herrors⟩
    · obtain ⟨e', hentry', hname', hnode'⟩ := hdefinitions definitions hsome
      refine ⟨fun heq => ?_, e', hentry', hnode'⟩
      -- two files at one entry would have one name
      obtain rfl : e = e' := Option.some.inj (hentry.symm.trans (heq.trans hentry'))
      exact Path.endOf_definitions_ne path (hname'.symm.trans hname)
    · refine hothers e (Documents.forall_mem_files.2 ⟨he, fun definitions hsome => ?_⟩)
      exact he' (by rw [hsome]; rfl)

end

/-- Two short documents are written where there were no files. -/
theorem Setup.writeDocuments_exact_short :
    FreshNames (Documents.short.files (.ofText "ecu.toml")) World.empty ∧
    ∃ w, (Setup.plain.writeDocuments {} Documents.short (.ofText "ecu.toml") :
        StateM World _).run World.empty = (.ok (), w) ∧
      (∃ e, target? w (.ofText "ecu.toml") = some e ∧
        node? w e = some (.file (Text.encodeUtf8 "[ecu]\n"))) ∧
      target? w (.ofText "ecu.toml") ≠ target? w (.ofText "ecu-dids.yaml") ∧
      (∃ e, target? w (.ofText "ecu-dids.yaml") = some e ∧
        node? w e = some (.file (Text.encodeUtf8 "dids:\n"))) ∧
      (∀ e, target? w (.ofText "ecu.toml") ≠ some e →
        target? w (.ofText "ecu-dids.yaml") ≠ some e → node? w e = node? World.empty e) ∧
      errors w = "Config written to ecu.toml\nDIDs written to ecu-dids.yaml\n" := by
  have hok : ((Setup.plain.writeDocuments {} Documents.short (.ofText "ecu.toml") :
      StateM World _).run World.empty).1 = .ok () := by decide +kernel
  have hpath : (Path.ofText "ecu.toml").definitions = .ofText "ecu-dids.yaml" := by decide +kernel
  have hnotices : errors World.empty ++ (OutputFile.notice "Config" (.ofText "ecu.toml") ++
      OutputFile.notice "DIDs" (.ofText "ecu-dids.yaml")) =
        "Config written to ecu.toml\nDIDs written to ecu-dids.yaml\n" := by decide +kernel
  obtain ⟨w, hrun, -⟩ := exists_run_eq (P := fun _ => True) hok trivial
  obtain ⟨-, -, hexact⟩ := Setup.writeDocuments_exact Setup.plain {} Documents.short
    (.ofText "ecu.toml") World.empty rfl
  obtain ⟨hconfiguration, hdefinitions, hothers, -, herrors⟩ := hexact freshNames_short w hrun
  obtain ⟨hapart, hcontent⟩ := hdefinitions "dids:\n" rfl
  rw [hpath] at hapart hcontent hothers herrors
  exact ⟨freshNames_short, w, hrun, hconfiguration, hapart, hcontent,
    fun e he he' => hothers e he fun _ => he', herrors.trans hnotices⟩

/-! ### Failures after staging -/

/-- A run that fails after both of its documents have been made ready: either the configuration
    cannot take its place and nothing has changed, or the definitions cannot, and then the
    configuration is in place without them.  So the files are as they were exactly if it is the
    configuration that fails, or its file already held what it holds. -/
theorem Setup.writeDocuments_commit_error {σ : Type} [Disk (StateM σ)] [DiskView σ]
    [Console (StateM σ)] [LawfulDisk σ] (setup : Setup) (o : CommonOptions) (d : Documents)
    (definitions : String) (path : Path) (s s₁ s' : σ) (ts : List (Disk.Staged (StateM σ)))
    (e : Failure) (hdry : o.dryRun = false) (hdefinitions : d.definitions = some definitions)
    (hstaging : Staging (d.files path) s ts s₁) (hfresh : FreshNames (d.files path) s)
    (hrun : (setup.writeDocuments o d path : StateM σ _).run s = (.error e, s')) :
    ((∃ cause, e = .committing "config" path cause ∧ Becomes s s' (node? s)) ∨
      ∃ cause entry, e = .committing "DIDs" path.definitions cause ∧
        target? s path = some entry ∧
        node? s' = Function.update (node? s) entry
          (some (.file (Text.encodeUtf8 d.configuration))) ∧
        target? s' = target? s ∧ isDirectory s' = isDirectory s ∧
        errors s' = errors s ++ if o.quiet then "" else OutputFile.notice "Config" path) ∧
    (node? s' = node? s ↔
      (∃ cause, e = .committing "config" path cause) ∨
        ∃ entry, target? s path = some entry ∧
          node? s entry = some (.file (Text.encodeUtf8 d.configuration))) := by
  rw [setup.writeDocuments_of_not_dryRun hdry d path] at hrun
  obtain ⟨placed, f, rest, cause, hfiles, he, hplaced, hentries, hdirectories, herrors⟩ :=
    writeAll_of_error hstaging hfresh hrun
  rcases Documents.files_eq_append hdefinitions hfiles with ⟨rfl, rfl⟩ | ⟨rfl, rfl⟩
  · -- the first of two renamings has failed
    have hnodes : node? s' = node? s := hplaced.nodes_eq
    have hsame : errors s' = errors s := by simpa [OutputFile.notices, String.join] using herrors
    exact ⟨.inl ⟨cause, he, hnodes, hentries, hdirectories, hsame⟩,
      fun _ => .inl ⟨cause, he⟩, fun _ => hnodes⟩
  · -- the second has, and the first is not taken back
    obtain ⟨entry, hentry, hrest⟩ := hplaced.cons_cons
    have hnodes := hrest.nodes_eq
    refine ⟨.inr ⟨cause, entry, he, hentry, hnodes, hentries, hdirectories, ?_⟩, ?_⟩
    · simpa [OutputFile.notices] using herrors
    · rw [hnodes, Function.update_eq_self_iff]
      constructor
      · intro hold
        exact .inr ⟨entry, hentry, hold.symm⟩
      · rintro (⟨cause', he'⟩ | ⟨entry', hentry', hold⟩)
        · rw [he] at he'
          simp at he'
        · obtain rfl : entry = entry' := Option.some.inj (hentry.symm.trans hentry')
          exact hold.symm

/-- It is so with a name that leaves no room for the ending of definitions. -/
theorem Setup.writeDocuments_commit_error_repeated :
    ∃ s₁ w, Staging (Documents.short.files (.repeated 250)) World.empty
        World.firstTemporaries s₁ ∧
      FreshNames (Documents.short.files (.repeated 250)) World.empty ∧
      (Setup.plain.writeDocuments { quiet := true } Documents.short (.repeated 250) :
        StateM World _).run World.empty =
          (.error (.committing "DIDs" (Path.repeated 250).definitions .nameTooLong), w) ∧
      (node? w = node? World.empty ↔
        (∃ cause, Failure.committing "DIDs" (Path.repeated 250).definitions .nameTooLong =
          .committing "config" (.repeated 250) cause) ∨
        ∃ entry, target? World.empty (.repeated 250) = some entry ∧
          node? World.empty entry =
            some (.file (Text.encodeUtf8 Documents.short.configuration))) := by
  obtain ⟨s₁, hstaging⟩ := exists_staging stageAll_repeated
  obtain ⟨w, hrun, -⟩ := writeAll_repeated
  have hdry : ({ quiet := true } : CommonOptions).dryRun = false := rfl
  rw [← Setup.plain.writeDocuments_of_not_dryRun hdry] at hrun
  exact ⟨s₁, w, hstaging, freshNames_repeated, hrun,
    (Setup.writeDocuments_commit_error Setup.plain { quiet := true } Documents.short "dids:\n"
      (.repeated 250) World.empty s₁ w World.firstTemporaries _ hdry rfl hstaging
      freshNames_repeated hrun).2⟩

/-- A run that ends with a failure after both documents have been made ready can leave the
    configuration written, without definitions, where there was nothing. -/
theorem Setup.writeDocuments_partial :
    (∃ s₁, Staging (Documents.short.files (.repeated 250)) World.empty
      World.firstTemporaries s₁) ∧
    ∃ e w, (Setup.plain.writeDocuments { quiet := true } Documents.short (.repeated 250) :
        StateM World _).run World.empty = (.error e, w) ∧
      World.empty.disk.entryOf? (.repeated 250) = some [List.replicate 250 97] ∧
      node? World.empty [List.replicate 250 97] = none ∧
      node? w [List.replicate 250 97] =
        some (.file (Text.encodeUtf8 Documents.short.configuration)) := by
  obtain ⟨w, hrun, hnode⟩ := writeAll_repeated
  have hdry : ({ quiet := true } : CommonOptions).dryRun = false := rfl
  rw [← Setup.plain.writeDocuments_of_not_dryRun hdry] at hrun
  have hentry : World.empty.disk.entryOf? (.repeated 250) = some [List.replicate 250 97] := by
    rw [Path.repeated_eq]
    decide +kernel
  exact ⟨exists_staging stageAll_repeated, _, w, hrun, hentry, rfl, hnode⟩

end SovdConfig
