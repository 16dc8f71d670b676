import SovdConfig.Proofs.Command.Logging
import SovdConfig.Proofs.Disk.Agreement

namespace SovdConfig

/-!
# Runs in pairs

Two programs that are run side by side, in worlds that may differ in what has been reported, in the
time that log lines tell and in what is in some files.  Main definitions:

* `RunAlike` — programs that take related states to related states, with related answers;
* `World.AgreeBut` — worlds with the same output, the same clock and trees that agree;
* `Paired` — programs that take worlds that agree to worlds that agree;
* `OnlyReports` — programs that change nothing but the error stream.

Main statements:

* `RunAlike.of_reports` — what only reports may differ between the two;
* `RunAlike.writeAll`, `RunAlike.writeDefault` — the same files are written by both.
-/

/-! ### Programs -/

/-- Whether two programs, started in states that are related in one way, end in states that are
    related in another way, with related answers. -/
def RunAlike {σ α β : Type} (P R : σ → σ → Prop) (Q : α → β → Prop) (x : StateM σ α)
    (y : StateM σ β) : Prop :=
  ∀ s s', P s s' → R (x.run s).2 (y.run s').2 ∧ Q (x.run s).1 (y.run s').1

namespace RunAlike

variable {σ α β α' β' : Type} {P R R' : σ → σ → Prop} {Q : α → β → Prop} {Q' : α' → β' → Prop}

/-- Related answers. -/
theorem pure {a : α} {b : β} (h : Q a b) :
    RunAlike R R Q (Pure.pure a : StateM σ α) (Pure.pure b : StateM σ β) := fun _ _ hs => ⟨hs, h⟩

/-- One pair of programs after the other. -/
theorem bind {x : StateM σ α} {y : StateM σ β} {f : α → StateM σ α'} {g : β → StateM σ β'}
    (h : RunAlike P R Q x y) (hfg : ∀ a b, Q a b → RunAlike R R' Q' (f a) (g b)) :
    RunAlike P R' Q' (x >>= f) (y >>= g) := by
  intro s s' hs
  obtain ⟨hend, hanswer⟩ := h s s' hs
  rw [run_bind_of_eq (Prod.eta (x.run s)).symm, run_bind_of_eq (Prod.eta (y.run s')).symm]
  exact hfg _ _ hanswer _ _ hend

/-- Programs that are done when a condition holds. -/
theorem ite {c : Prop} [Decidable c] {x x' : StateM σ α} {y y' : StateM σ β}
    (h : c → RunAlike P R Q x y) (h' : ¬ c → RunAlike P R Q x' y') :
    RunAlike P R Q (if c then x else x') (if c then y else y') := by
  split
  · next hc => exact h hc
  · next hc => exact h' hc

/-- States that are related in more than one way at the start. -/
theorem of_imp {P' : σ → σ → Prop} {x : StateM σ α} {y : StateM σ β} (h : RunAlike P R Q x y)
    (hP : ∀ s s', P' s s' → P s s') : RunAlike P' R Q x y := fun s s' hs => h s s' (hP s s' hs)

end RunAlike

/-! ### Worlds -/

/-- Whether two worlds have the same output, the same clock and trees that agree but for the
    contents of veiled files. -/
structure World.AgreeBut (veiled : Location → Prop) (w w' : World) : Prop where
  disk : w.disk.AgreeBut veiled w'.disk
  output : w'.output = w.output
  clock : w'.clock = w.clock

/-- Whether two programs take worlds that agree to worlds that agree, with related answers. -/
abbrev Paired {α β : Type} (veiled : Location → Prop) (Q : α → β → Prop) (x : StateM World α)
    (y : StateM World β) : Prop :=
  RunAlike (World.AgreeBut veiled) (World.AgreeBut veiled) Q x y

/-- Whether a program changes nothing but the error stream. -/
def OnlyReports {α : Type} (x : StateM World α) : Prop :=
  ∀ w, ∃ errors, (x.run w).2 = { w with errors }

/-- A relation between worlds that reports leave alone. -/
def IgnoresReports (R : World → World → Prop) : Prop :=
  ∀ w w' errors errors', R w w' → R { w with errors } { w' with errors := errors' }

/-- A logger without a file only reports. -/
theorem Logger.onlyReports_log {logger : Option Logger} (h : Logger.WritesTo logger none)
    (r : LogRecord) : OnlyReports (Logger.log logger r : StateM World Unit) := by
  intro w
  have hstable : LogStable none fun w' => ∃ errors, w' = { w with errors } := by
    refine ⟨?_, fun _ _ _ _ hlog => nomatch hlog⟩
    rintro _ text ⟨errors, rfl⟩
    exact ⟨_, rfl⟩
  exact hstable.keeps_log h r w ⟨w.errors, rfl⟩

section

variable {veiled : Location → Prop} {R : World → World → Prop}

/-- Whether worlds agree is not up to what has been reported. -/
theorem World.ignoresReports_agreeBut : IgnoresReports (World.AgreeBut veiled) :=
  fun _ _ _ _ h => ⟨h.disk, h.output, h.clock⟩

namespace RunAlike

/-- What is only reported may differ. -/
theorem of_reports (hR : IgnoresReports R) {α β : Type} {x : StateM World α} {y : StateM World β}
    (hx : OnlyReports x) (hy : OnlyReports y) : RunAlike R R (fun _ _ => True) x y := by
  intro w w' hw
  obtain ⟨errors, hend⟩ := hx w
  obtain ⟨errors', hend'⟩ := hy w'
  rw [hend, hend']
  exact ⟨hR _ _ _ _ hw, trivial⟩

/-- Log records that go to no file. -/
theorem log (hR : IgnoresReports R) {logger logger' : Option Logger}
    (h : Logger.WritesTo logger none) (h' : Logger.WritesTo logger' none) (r r' : LogRecord) :
    RunAlike R R (fun _ _ => True) (Logger.log logger r : StateM World Unit)
      (Logger.log logger' r') :=
  of_reports hR (Logger.onlyReports_log h r) (Logger.onlyReports_log h' r')

/-- Reports before programs that run alike, either of which may be left out. -/
theorem report (hR : IgnoresReports R) {α β : Type} {Q : α → β → Prop} {x : StateM World α}
    {y : StateM World β} (h : RunAlike R R Q x y) (b b' : Bool) (text text' : String) :
    RunAlike R R Q (if b then Console.printError text >>= fun _ => x else x)
      (if b' then Console.printError text' >>= fun _ => y else y) := by
  have hrun : ∀ {γ : Type} (z : StateM World γ) (b : Bool) text (w : World),
      (if b then Console.printError text >>= fun _ => z else z).run w =
        z.run { w with errors := if b then w.errors ++ text else w.errors } := by
    intro γ z b text w
    cases b <;> rfl
  intro w w' hw
  rw [hrun, hrun]
  exact h _ _ (hR _ _ _ _ hw)

/-- The same text is printed. -/
theorem print (text : String) : Paired veiled Eq
    (Console.print text : StateM World Unit) (Console.print text) := by
  intro w w' hw
  refine ⟨⟨hw.disk, ?_, hw.clock⟩, rfl⟩
  show w'.output ++ text = w.output ++ text
  rw [hw.output]

/-! ### Files -/

/-- Operations that take trees that agree to trees that agree. -/
theorem onDisk {α β : Type} {Q : α → β → Prop} {f : StateM FileTree α} {g : StateM FileTree β}
    (h : RunAlike (FileTree.AgreeBut veiled) (FileTree.AgreeBut veiled) Q f g) :
    Paired veiled Q (World.onDisk f) (World.onDisk g) :=
  fun _ _ hw => ⟨⟨(h _ _ hw.disk).1, hw.output, hw.clock⟩, (h _ _ hw.disk).2⟩

/-- A change that is made to both trees or to neither. -/
theorem attempt {f g : FileTree → Except DiskFault FileTree}
    (h : ∀ t t', t.AgreeBut veiled t' → Alike (FileTree.AgreeBut veiled) (f t) (g t')) :
    RunAlike (FileTree.AgreeBut veiled) (FileTree.AgreeBut veiled) Eq
      (FileTree.attempt f) (FileTree.attempt g) := by
  intro t t' ht
  have halike := h t t' ht
  show FileTree.AgreeBut veiled (FileTree.attempt f t).2 (FileTree.attempt g t').2 ∧
    (FileTree.attempt f t).1 = (FileTree.attempt g t').1
  unfold FileTree.attempt
  generalize f t = r, g t' = r' at halike ⊢
  cases halike with
  | error e => exact ⟨ht, rfl⟩
  | ok hend => exact ⟨hend, rfl⟩

/-- The same paths lead to directories. -/
theorem isDirectory (p : Path) : Paired veiled Eq
    (Disk.isDirectory p : StateM World Bool) (Disk.isDirectory p) :=
  fun _ _ hw => ⟨hw, (hw.disk.isDirectory p).symm⟩

/-- The same paths lead to something. -/
theorem doesExist (p : Path) : Paired veiled Eq
    (Disk.doesExist p : StateM World Bool) (Disk.doesExist p) :=
  fun _ _ hw => ⟨hw, (hw.disk.isThere p).symm⟩

/-- A file is written in both. -/
theorem write (p : Path) (content : Bytes) : Paired veiled Eq
    (Disk.write p content : StateM World _) (Disk.write p content) :=
  onDisk (attempt fun _ _ ht => ht.write p content)

/-- Directories are made in both. -/
theorem createDirectories (p : Path) : Paired veiled Eq
    (Disk.createDirectories p : StateM World _) (Disk.createDirectories p) :=
  onDisk (f := Disk.createDirectories p) fun t t' ht => by
    obtain ⟨hend, hanswer⟩ := ht.createWithParents (p.bytes.length + 1) p
    exact ⟨hend, hanswer.symm⟩

/-- A temporary file is made in both, at a location that is not veiled. -/
theorem createTemporary (p : Path) : Paired veiled
    (Alike fun l l' => l = l' ∧ ¬ veiled l)
    (Disk.createTemporary (m := StateM World) p) (Disk.createTemporary (m := StateM World) p) := by
  intro w w' hw
  have halike := hw.disk.createTemporary p
  rw [World.run_createTemporary, World.run_createTemporary, hw.disk.temporaryPath]
  generalize w.disk.createTemporary p = r, w'.disk.createTemporary p = r' at halike ⊢
  cases halike with
  | error e => exact ⟨hw, .error _⟩
  | @ok a a' hend =>
    obtain ⟨hl, hnot, hagree⟩ := hend
    exact ⟨⟨hagree, hw.output, hw.clock⟩, .ok ⟨hl, hnot⟩⟩

/-- Temporary files may be read by everyone. -/
theorem setMode (l : Location) : Paired veiled Eq
    (Disk.setMode (m := StateM World) l) (Disk.setMode (m := StateM World) l) :=
  fun _ _ hw => ⟨hw, rfl⟩

/-- A temporary file gets the same content. -/
theorem fill (l : Location) (content : Bytes) : Paired veiled Eq
    (Disk.fill (m := StateM World) l content) (Disk.fill (m := StateM World) l content) :=
  fun _ _ hw => ⟨⟨hw.disk.put l _, hw.output, hw.clock⟩, rfl⟩

/-- A temporary file is removed. -/
theorem discard {l : Location} (hl : ¬ veiled l) : Paired veiled Eq
    (Disk.discard (m := StateM World) l) (Disk.discard (m := StateM World) l) :=
  fun _ _ hw => ⟨⟨hw.disk.erase hl, hw.output, hw.clock⟩, rfl⟩

/-- A temporary file takes its place. -/
theorem commit {l : Location} (hl : ¬ veiled l) (p : Path) : Paired veiled Eq
    (Disk.commit (m := StateM World) l p) (Disk.commit (m := StateM World) l p) :=
  onDisk (attempt fun _ _ ht => ht.commit hl p)

/-! ### Outputs -/

/-- A temporary file is made ready. -/
theorem prepare (f : OutputFile) {l : Location} (hl : ¬ veiled l) :
    Paired veiled (Alike fun l l' => l = l' ∧ ¬ veiled l)
      (f.prepare (m := StateM World) l) (f.prepare (m := StateM World) l) := by
  refine (setMode l).bind fun made _ hmade => ?_
  subst hmade
  rcases made with cause | ⟨⟩
  · exact (discard hl).bind fun _ _ _ => .pure (.error _)
  refine (fill l _).bind fun filled _ hfilled => ?_
  subst hfilled
  rcases filled with ⟨cause, tried⟩ | ⟨⟩
  · exact (discard hl).bind fun _ _ _ => .pure (.error _)
  · exact .pure (.ok ⟨rfl, hl⟩)

/-- A file is made ready. -/
theorem stage (f : OutputFile) :
    Paired veiled (Alike fun l l' => l = l' ∧ ¬ veiled l)
      (f.stage (m := StateM World)) (f.stage (m := StateM World)) := by
  refine (isDirectory f.path).bind fun isDirectory _ h => ?_
  subst h
  refine .ite (fun _ => .pure (.error _)) fun _ => ?_
  refine (createTemporary f.directory).bind fun made made' hmade => ?_
  cases hmade with
  | error e => exact .pure (.error _)
  | ok hmade =>
    obtain ⟨rfl, hl⟩ := hmade
    exact prepare f hl

/-- All files are made ready, or none is left. -/
theorem stageAll (files : List OutputFile) :
    Paired veiled (Alike fun ls ls' => ls = ls' ∧ ∀ l ∈ ls, ¬ veiled l)
      (OutputFile.stageAll (m := StateM World) files)
      (OutputFile.stageAll (m := StateM World) files) := by
  induction files with
  | nil => exact .pure (.ok ⟨rfl, by simp⟩)
  | cons f rest ih =>
    refine (stage f).bind fun staged staged' hstaged => ?_
    cases hstaged with
    | error e => exact .pure (.error _)
    | @ok l l' hstaged =>
      obtain ⟨rfl, hl⟩ := hstaged
      refine ih.bind fun more more' hmore => ?_
      -- a failure to make the rest ready takes this one back
      cases hmore with
      | error e => exact (discard hl).bind fun _ _ _ => .pure (.error _)
      | @ok ls ls' hmore =>
        obtain ⟨rfl, hls⟩ := hmore
        exact .pure (.ok ⟨rfl, List.forall_mem_cons.2 ⟨hl, hls⟩⟩)

/-- Temporary files are removed. -/
theorem discardAll {ls : List Location} (hls : ∀ l ∈ ls, ¬ veiled l) :
    Paired veiled Eq
      (OutputFile.discardAll (m := StateM World) ls)
      (OutputFile.discardAll (m := StateM World) ls) := by
  induction ls with
  | nil => exact .pure rfl
  | cons l rest ih =>
    obtain ⟨hl, hrest⟩ := List.forall_mem_cons.1 hls
    exact (discard hl).bind fun _ _ _ => ih hrest

/-- Temporary files take their places, which either run may report. -/
theorem commitAll (quiet quiet' : Bool) {pairs : List (OutputFile × Location)}
    (hpairs : ∀ p ∈ pairs, ¬ veiled p.2) :
    Paired veiled Eq
      (OutputFile.commitAll (m := StateM World) quiet pairs)
      (OutputFile.commitAll (m := StateM World) quiet' pairs) := by
  induction pairs with
  | nil => exact .pure rfl
  | cons p rest ih =>
    obtain ⟨f, l⟩ := p
    obtain ⟨hl, hrest⟩ := List.forall_mem_cons.1 hpairs
    refine (commit hl f.path).bind fun placed _ hplaced => ?_
    subst hplaced
    -- at the first failure all that is left is removed
    rcases placed with cause | ⟨⟩
    · have hall : ∀ l' ∈ l :: rest.map Prod.snd, ¬ veiled l' := by
        simpa using ⟨hl, fun l' f' hmem => hrest (f', l') hmem⟩
      exact (discardAll hall).bind fun _ _ _ => .pure rfl
    · exact report World.ignoresReports_agreeBut (ih hrest) (!quiet) (!quiet') _ _

/-- The same files are written. -/
theorem writeAll (quiet quiet' : Bool) (files : List OutputFile) :
    Paired veiled Eq
      (OutputFile.writeAll quiet files : StateM World _) (OutputFile.writeAll quiet' files) := by
  refine (stageAll files).bind fun staged staged' hstaged => ?_
  cases hstaged with
  | error e => exact .pure rfl
  | @ok ls ls' hstaged =>
    obtain ⟨rfl, hls⟩ := hstaged
    exact commitAll quiet quiet' fun p hp => hls p.2 (List.of_mem_zip hp).2

/-- A configuration file is written in both. -/
theorem writeDefault (path : Path) : Paired veiled Eq
    (Settings.writeDefault path : StateM World _) (Settings.writeDefault path) := by
  have hwrite : Paired veiled Eq
      (do return (← Disk.write path (Settings.defaultBytes path)).mapError (.file path) :
        StateM World (Except WriteFault Unit))
      (do return (← Disk.write path (Settings.defaultBytes path)).mapError (.file path)) :=
    (write path _).bind fun _ _ hwritten => .pure (by rw [hwritten])
  unfold Settings.writeDefault
  rcases path.parent? with - | parent
  · exact hwrite
  · refine (createDirectories parent).bind fun made _ hmade => ?_
    subst hmade
    rcases made with e | ⟨⟩
    · exact .pure rfl
    · exact hwrite

end RunAlike

end

end SovdConfig
