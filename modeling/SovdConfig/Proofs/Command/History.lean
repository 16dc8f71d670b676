import Mathlib.Data.List.Induction
import SovdConfig.Proofs.Command.Frame

namespace SovdConfig

/-!
# Histories of runs

What one run after the other does to the files, each with arguments, an environment and a directory
of its own.  Main definitions:

* `Call` — what a run of the program is given;
* `Call.history` — the files after some calls;
* `Call.LeavesAlone` — whether nothing that a call is asked for is about a file.

Main statement: `Call.history_frame`, a call changes what it may change and nothing else; so a file
that all calls leave alone keeps its content, and a file that comes has been asked for.

A call to make the configuration file looks whether the file is there, then makes the directories on
the way to it, and then writes it.  Once there are these directories the path may lead to another
file than before, which is then replaced although nobody has asked for that.
-/

/-- What a run of the program is given. -/
structure Call where
  env : Environment := {}
  terminal : Bool := false
  words : List Bytes
  /-- The current directory. -/
  directory : Location := []
  now : Timestamp := default
  clock : Nat → Timestamp := fun _ => default

namespace Call

/-- What a call finds. -/
def start (c : Call) (t : FileTree) : World where
  disk := { t with current := c.directory }
  now := c.now
  clock := c.clock

/-- The files after a call. -/
def after (c : Call) (t : FileTree) : FileTree :=
  ((Program.run c.env c.terminal c.words : StateM World ExitCode).run (c.start t)).2.disk

/-- The files after one call and then another. -/
def history (t : FileTree) (calls : List Call) : FileTree := calls.foldl (fun t c => c.after t) t

/-- Whether nothing that a call is asked for is about an entry: it is no target, and the
    configuration file is not made by force; and if the configuration file is there when it has been
    made, then it was there before. -/
def LeavesAlone (c : Call) (t : FileTree) (l : Location) : Prop :=
  ∀ i, Invocation.ofWords c.words = .ok i → ¬ i.IsTarget c.env (c.start t) l ∧
    ∀ force, i.task = .createSettings force → force = false ∧
      ∀ path, i.settingsPath? c.env (c.start t) = some path →
        (c.after t).entryOf? path = some l → (c.start t).disk.entryOf? path = some l

/-- Whether a call is asked for an entry: it is a target or the configuration file that is made. -/
def AsksFor (c : Call) (t : FileTree) (l : Location) : Prop :=
  ∃ i, Invocation.ofWords c.words = .ok i ∧ (i.IsTarget c.env (c.start t) l ∨
    ∃ force path, i.task = .createSettings force ∧ i.common.dryRun = false ∧
      i.settingsPath? c.env (c.start t) = some path ∧ (c.after t).entryOf? path = some l)

/-! ### One call -/

variable {c : Call} {t : FileTree} {l : Location} {content : Bytes}

/-- A call changes what it may change and nothing else. -/
theorem mayChange_of_ne (h : (c.after t).node? l ≠ t.node? l) :
    ∃ i, Invocation.ofWords c.words = .ok i ∧ i.MayChange c.env (c.start t) (c.after t) l :=
  Program.mayChange_of_ne h

/-- A file that a call leaves alone keeps its content. -/
theorem node?_after_of_leavesAlone (hfile : t.node? l = some (.file content))
    (h : c.LeavesAlone t l) : (c.after t).node? l = some (.file content) := by
  by_contra hne
  rw [← hfile] at hne
  obtain ⟨i, hwords, hmay⟩ := mayChange_of_ne hne
  obtain ⟨htarget, hinit⟩ := h i hwords
  have hthere : (c.start t).disk.node? l ≠ none := by
    show t.node? l ≠ none
    simp [hfile]
  cases hmay with
  | target hl => exact htarget hl
  | @settings force path htask _ hpath habsent hslash hentry =>
    -- the path led to the file, so the file was found and not replaced
    obtain ⟨rfl, hway⟩ := hinit force htask
    have hfound := FileTree.isThere_of_entryOf? (hway path hpath hentry) hthere hslash
    rw [hfound] at habsent
    simp at habsent
  | directory _ _ _ _ _ _ hfree _ => exact hthere hfree

/-- A call that a file comes from has been asked for it. -/
theorem asksFor_of_node? (hnone : ∀ old, t.node? l ≠ some (.file old))
    (hfile : (c.after t).node? l = some (.file content)) : c.AsksFor t l := by
  have hne : (c.after t).node? l ≠ t.node? l := by
    rw [hfile]
    exact (hnone content).symm
  obtain ⟨i, hwords, hmay⟩ := mayChange_of_ne hne
  refine ⟨i, hwords, ?_⟩
  cases hmay with
  | target hl => exact .inl hl
  | @settings force path htask hdry hpath _ _ hentry =>
    exact .inr ⟨force, path, htask, hdry, hpath, hentry⟩
  | directory _ _ _ _ _ _ _ hdirectory =>
    -- directories come too, but no file does in this way
    rw [hfile] at hdirectory
    cases hdirectory

/-! ### Histories -/

/-- The last call comes after the others. -/
theorem history_append (t : FileTree) (calls : List Call) (c : Call) :
    history t (calls ++ [c]) = c.after (history t calls) := by
  simp [history]

/-- A file that all calls leave alone keeps its content. -/
theorem history_keeps {calls : List Call} (hfile : t.node? l = some (.file content))
    (h : ∀ before c later, calls = before ++ c :: later → c.LeavesAlone (history t before) l) :
    (history t calls).node? l = some (.file content) := by
  -- from the last call back: what the calls before it leave alone is what it finds
  induction calls using List.reverseRecOn with
  | nil => exact hfile
  | append_singleton calls c ih =>
    have hbefore := ih fun before d later hcalls => h before d (later ++ [c]) (by simp [hcalls])
    rw [history_append]
    exact node?_after_of_leavesAlone hbefore (h calls c [] rfl)

/-- A file that comes has been asked for. -/
theorem history_asks {calls : List Call} (hnone : ∀ old, t.node? l ≠ some (.file old))
    (hfile : (history t calls).node? l = some (.file content)) :
    ∃ before c later, calls = before ++ c :: later ∧ c.AsksFor (history t before) l := by
  induction calls using List.reverseRecOn generalizing content with
  | nil => exact absurd hfile (hnone content)
  | append_singleton calls c ih =>
    by_cases hbefore : ∃ old, (history t calls).node? l = some (.file old)
    · -- the file is older than the last call
      obtain ⟨old, hold⟩ := hbefore
      obtain ⟨before, d, later, rfl, hasks⟩ := ih hold
      exact ⟨before, d, later ++ [c], by simp, hasks⟩
    · rw [history_append] at hfile
      exact ⟨calls, c, [], rfl, asksFor_of_node? (fun old hold => hbefore ⟨old, hold⟩) hfile⟩

/-- In every history a call changes what it may change and nothing else.  So a file that all calls
    leave alone keeps its content, and a file that comes has been asked for. -/
theorem history_frame (t : FileTree) (calls : List Call) (l : Location) :
    (∀ before c later, calls = before ++ c :: later →
      (c.after (history t before)).node? l ≠ (history t before).node? l →
        ∃ i, Invocation.ofWords c.words = .ok i ∧
          i.MayChange c.env (c.start (history t before)) (c.after (history t before)) l) ∧
    (∀ content, t.node? l = some (.file content) →
      (∀ before c later, calls = before ++ c :: later → c.LeavesAlone (history t before) l) →
        (history t calls).node? l = some (.file content)) ∧
    (∀ content, (∀ old, t.node? l ≠ some (.file old)) →
      (history t calls).node? l = some (.file content) →
        ∃ before c later, calls = before ++ c :: later ∧ c.AsksFor (history t before) l) :=
  ⟨fun _ _ _ _ hne => mayChange_of_ne hne, fun _ hfile h => history_keeps hfile h,
    fun _ hnone hfile => history_asks hnone hfile⟩

/-- For one, a configuration file beside the output of a run. -/
theorem history_frame_beside :
    let c : Call :=
      { words := ["-q", "-n", "x", "-t", "0x1", "-r", "0x2", "-o", "x.toml"].map Text.encodeUtf8 }
    let l : Location := [Text.encodeUtf8 "old.toml"]
    let t : FileTree := ⟨[], [(l, .file [])]⟩
    (∀ before d later, [c] = before ++ d :: later → d.LeavesAlone (history t before) l) ∧
      (history t [c]).node? l = some (.file []) := by
  intro c l t
  let g : GenerateOptions :=
    { name := some "x", txId := some "0x1", rxId := some "0x2", output := some (.ofText "x.toml") }
  let i : Invocation := { common := { quiet := true }, task := .generate g }
  have hwords : Invocation.ofWords c.words = .ok i := by rfl
  have houtput : i.output? = some (.ofText "x.toml") := by rfl
  have hentry : (c.start t).disk.entryOf? (.ofText "x.toml") ≠ some l := by decide +kernel
  have hleaves : c.LeavesAlone t l := by
    intro i' hwords'
    obtain rfl : i = i' := Except.ok.inj (hwords.symm.trans hwords')
    refine ⟨?_, fun force htask => nomatch htask⟩
    rintro ⟨p, hp | hp | hp, hl⟩
    · obtain rfl : Path.ofText "x.toml" = p := Option.some.inj (houtput.symm.trans hp)
      exact hentry hl
    · cases hp
    · cases hp
  have hsplits : ∀ before d later, [c] = before ++ d :: later →
      d.LeavesAlone (history t before) l := by
    intro before d later hcalls
    obtain ⟨rfl, h⟩ | ⟨_, rfl, h⟩ := List.append_eq_cons_iff.1 hcalls.symm
    · obtain ⟨rfl, -⟩ := List.cons.inj h
      exact hleaves
    · simp at h
  exact ⟨hsplits, (history_frame t [c] l).2.1 [] rfl hsplits⟩

/-- A configuration file that is no target of any call and is not replaced by force can lose its
    content all the same, to a path that leads to it once a missing directory has been made. -/
theorem history_overwrites :
    let c : Call :=
      { words := ["config", "init", "-q", "--config", "new/../old.toml"].map Text.encodeUtf8 }
    let l : Location := [Text.encodeUtf8 "old.toml"]
    let t : FileTree := ⟨[], [(l, .file (Text.encodeUtf8 "[generator]\n"))]⟩
    (∃ i, Invocation.ofWords c.words = .ok i ∧ i.task = .createSettings false ∧
      ¬ i.IsTarget c.env (c.start t) l) ∧
    (history t [c]).node? l ≠ t.node? l := by
  intro c l t
  let i : Invocation :=
    { common := { config := some (.ofText "new/../old.toml"), quiet := true }
      task := .createSettings false }
  have hwords : Invocation.ofWords c.words = .ok i := by rfl
  refine ⟨⟨i, hwords, rfl, ?_⟩, by decide +kernel⟩
  rintro ⟨p, hp | hp | hp, -⟩
  · cases hp
  · cases hp
  · cases hp

end Call

end SovdConfig
