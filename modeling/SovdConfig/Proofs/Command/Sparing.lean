import SovdConfig.Proofs.Command.Writing

namespace SovdConfig

/-!
# What a run leaves alone

Runs that change at most some entries, on every lawful file system.  Main definitions:

* `SameBut` — states that differ at most at some entries, where nothing has gone;
* `OnlyLooks`, `Keeps` — programs that change nothing, or keep a property of the state;
* `Spares` — programs that end in a state with such differences;
* `Pending` — the invariant of files that wait for their places, with temporary names anywhere.

Main statement: `Spares.writeAll`, files are written at their entries and leave everything else
alone, also if a temporary file stands where one of them is to be.
-/

open DiskView

/-! ### Looks and answers -/

/-- Whether a program only looks at the state. -/
def OnlyLooks {σ α : Type} (x : StateM σ α) : Prop := ∀ s, (x.run s).2 = s

namespace OnlyLooks

variable {σ α β : Type}

/-- An answer alone changes nothing. -/
theorem pure (a : α) : OnlyLooks (Pure.pure a : StateM σ α) := fun _ => rfl

/-- A program that only looks ends where it starts. -/
theorem run_eq {x : StateM σ α} (h : OnlyLooks x) (s : σ) : x.run s = ((x.run s).1, s) :=
  Prod.ext rfl (h s)

/-- One look after the other. -/
theorem bind {x : StateM σ α} {f : α → StateM σ β} (hx : OnlyLooks x)
    (hf : ∀ a, OnlyLooks (f a)) : OnlyLooks (x >>= f) := by
  intro s
  rw [run_bind_of_eq (hx.run_eq s)]
  exact hf _ s

end OnlyLooks

/-- Whether a program keeps a property of the state. -/
def Keeps {σ α : Type} (P : σ → Prop) (x : StateM σ α) : Prop := ∀ s, P s → P (x.run s).2

namespace Keeps

variable {σ α β : Type} {P : σ → Prop}

/-- An answer alone changes nothing. -/
theorem pure (a : α) : Keeps P (Pure.pure a : StateM σ α) := fun _ h => h

/-- One program after the other. -/
theorem bind {x : StateM σ α} {f : α → StateM σ β} (hx : Keeps P x) (hf : ∀ a, Keeps P (f a)) :
    Keeps P (x >>= f) := by
  intro s hs
  rw [run_bind_of_eq (Prod.eta (x.run s)).symm]
  exact hf _ _ (hx s hs)

/-- A program that is done when a condition holds. -/
theorem ite {c : Prop} [Decidable c] {x y : StateM σ α} (hx : c → Keeps P x)
    (hy : ¬ c → Keeps P y) : Keeps P (if c then x else y) := by
  split
  · next h => exact hx h
  · next h => exact hy h

end Keeps

/-- A program that only looks keeps everything. -/
theorem OnlyLooks.keeps {σ α : Type} {P : σ → Prop} {x : StateM σ α} (h : OnlyLooks x) :
    Keeps P x := by
  intro s hs
  rwa [h s]

/-- Whether all answers of a program have a property. -/
def Answers {σ α : Type} (P : α → Prop) (x : StateM σ α) : Prop := ∀ s, P (x.run s).1

/-- The last of two programs gives the answer. -/
theorem Answers.bind {σ α β : Type} {P : β → Prop} {x : StateM σ α} {f : α → StateM σ β}
    (hf : ∀ a, Answers P (f a)) : Answers P (x >>= f) := by
  intro s
  rw [run_bind_of_eq (Prod.eta (x.run s)).symm]
  exact hf _ _

/-! ### States -/

section

variable {σ : Type} [Disk (StateM σ)] [DiskView σ]

/-- States that differ at most at some entries; what was there is not gone, and paths lead where
    they did. -/
structure SameBut (may : Entry σ → Prop) (s s' : σ) : Prop where
  nodes : ∀ e, ¬ may e → node? s' e = node? s e
  kept : ∀ e, node? s e ≠ none → node? s' e ≠ none
  entries : target? s' = target? s
  directories : isDirectory s' = isDirectory s

namespace SameBut

variable {may : Entry σ → Prop} {s s₁ s₂ : σ}

/-- A state is the same as itself. -/
theorem refl (may : Entry σ → Prop) (s : σ) : SameBut may s s :=
  ⟨fun _ _ => rfl, fun _ h => h, rfl, rfl⟩

/-- One difference after the other. -/
theorem trans (h : SameBut may s s₁) (h' : SameBut may s₁ s₂) : SameBut may s s₂ where
  nodes e he := (h'.nodes e he).trans (h.nodes e he)
  kept e he := h'.kept e (h.kept e he)
  entries := h'.entries.trans h.entries
  directories := h'.directories.trans h.directories

/-- A state in which everything is as it was. -/
theorem of_becomes (may : Entry σ → Prop) (h : Becomes s s₁ (node? s)) : SameBut may s s₁ where
  nodes e _ := by rw [h.nodes]
  kept e he := by rwa [h.nodes]
  entries := h.entries
  directories := h.directories

end SameBut

/-! ### Programs -/

/-- Whether a program, wherever it starts among the states that differ from a given one at most at
    some entries, ends in one of them. -/
def Spares {α : Type} (may : Entry σ → Prop) (s₀ : σ) (x : StateM σ α) : Prop :=
  ∀ s, SameBut may s₀ s → SameBut may s₀ (x.run s).2

namespace Spares

variable {α β : Type} {may : Entry σ → Prop} {s₀ : σ}

/-- A program leaves everything else alone if it keeps the differences where they may be. -/
theorem of_keeps {x : StateM σ α} (h : Keeps (SameBut may s₀) x) : Spares may s₀ x := h

/-- An answer alone changes nothing. -/
theorem pure (a : α) : Spares may s₀ (Pure.pure a : StateM σ α) := of_keeps (.pure a)

/-- One program after the other. -/
theorem bind {x : StateM σ α} {f : α → StateM σ β} (hx : Spares may s₀ x)
    (hf : ∀ a, Spares may s₀ (f a)) : Spares may s₀ (x >>= f) := of_keeps (Keeps.bind hx hf)

/-- A program that is done when a condition holds. -/
theorem ite {c : Prop} [Decidable c] {x y : StateM σ α} (hx : c → Spares may s₀ x)
    (hy : ¬ c → Spares may s₀ y) : Spares may s₀ (if c then x else y) := of_keeps (Keeps.ite hx hy)

end Spares

/-! ### Files that wait for their places -/

/-- A state in which files wait for their places: their temporary names differ, were free and are
    taken; everything else is as it was, but for the entries that may change. -/
structure Pending (may : Entry σ → Prop) (s₀ s : σ)
    (pairs : List (OutputFile × Disk.Staged (StateM σ))) : Prop where
  distinct : (pairs.map fun p => temporary p.2).Nodup
  staged : ∀ p ∈ pairs, IsStaged s p.2
  free : ∀ p ∈ pairs, node? s₀ (temporary p.2) = none
  nodes : ∀ e, ¬ may e → e ∉ pairs.map (fun p => temporary p.2) → node? s e = node? s₀ e
  kept : ∀ e, node? s₀ e ≠ none → node? s e ≠ none
  entries : target? s = target? s₀
  directories : isDirectory s = isDirectory s₀

namespace Pending

variable {may : Entry σ → Prop} {s₀ s s₁ : σ} {f : OutputFile} {t : Disk.Staged (StateM σ)}
  {rest pairs : List (OutputFile × Disk.Staged (StateM σ))}

/-- When no file waits any more, only the entries that may change have changed. -/
theorem sameBut (h : Pending may s₀ s []) : SameBut may s₀ s where
  nodes e he := h.nodes e he (by simp)
  kept := h.kept
  entries := h.entries
  directories := h.directories

/-- Files that are ready wait for their places. -/
theorem of_ready (hs : SameBut may s₀ s) (h : Ready (node? s) s₁ pairs)
    (hbecomes : Becomes s s₁ (node? s₁)) : Pending may s₀ s₁ pairs where
  distinct := h.distinct
  staged p hp := ⟨_, h.content p hp⟩
  free p hp := by
    by_contra hne
    exact hs.kept _ hne (h.free p hp)
  nodes e he hnot := (h.others e hnot).trans (hs.nodes e he)
  kept e he := by
    by_cases hmem : e ∈ pairs.map fun p => temporary p.2
    · obtain ⟨p, hp, rfl⟩ := List.mem_map.1 hmem
      rw [h.content p hp]
      simp
    · rw [h.others e hmem]
      exact hs.kept e he
  entries := hbecomes.entries.trans hs.entries
  directories := hbecomes.directories.trans hs.directories

/-- A file that waits no more: its temporary name is free again, and what has changed besides may
    change and is a file. -/
theorem tail {nodes : Entry σ → Option Node} (h : Pending may s₀ s ((f, t) :: rest))
    (hbecomes : Becomes s s₁ nodes)
    (hsame : ∀ e, ¬ may e → e ≠ temporary t → nodes e = node? s e)
    (hgone : ¬ may (temporary t) → nodes (temporary t) = none)
    (hfile : ∀ e, e ≠ temporary t →
      nodes e = node? s e ∨ ∃ content, nodes e = some (.file content)) :
    Pending may s₀ s₁ rest := by
  obtain ⟨hnew, hdistinct⟩ := List.nodup_cons.1 h.distinct
  have hne : ∀ p ∈ rest, temporary p.2 ≠ temporary t := by
    intro p hp heq
    exact hnew (List.mem_map.2 ⟨p, hp, heq⟩)
  have hfree : node? s₀ (temporary t) = none := h.free (f, t) (.head _)
  refine ⟨hdistinct, ?_, fun p hp => h.free p (.tail _ hp), ?_, ?_,
    hbecomes.entries.trans h.entries, hbecomes.directories.trans h.directories⟩
  · -- another temporary file may be written over, but it stays a file
    intro p hp
    obtain ⟨content, hcontent⟩ := h.staged p (.tail _ hp)
    rcases hfile _ (hne p hp) with hstill | ⟨content', hcontent'⟩
    · exact ⟨content, by rw [hbecomes.nodes, hstill, hcontent]⟩
    · exact ⟨content', by rw [hbecomes.nodes, hcontent']⟩
  · intro e he hnot
    rw [hbecomes.nodes]
    by_cases heq : e = temporary t
    · rw [heq] at he ⊢
      rw [hgone he, hfree]
    · rw [hsame e he heq]
      exact h.nodes e he (mt List.mem_cons.1 (not_or.2 ⟨heq, hnot⟩))
  · intro e he
    have heq : e ≠ temporary t := by
      rintro rfl
      exact he hfree
    rw [hbecomes.nodes]
    rcases hfile e heq with hstill | ⟨content, hcontent⟩
    · rw [hstill]
      exact h.kept e he
    · simp [hcontent]

/-- A state in which the same is at all entries. -/
theorem congr (h : Pending may s₀ s pairs) (hnodes : node? s₁ = node? s)
    (hentries : target? s₁ = target? s) (hdirectories : isDirectory s₁ = isDirectory s) :
    Pending may s₀ s₁ pairs where
  distinct := h.distinct
  staged p hp := by
    obtain ⟨content, hcontent⟩ := h.staged p hp
    exact ⟨content, by rw [hnodes, hcontent]⟩
  free := h.free
  nodes e he hnot := by rw [hnodes, h.nodes e he hnot]
  kept e he := by
    rw [hnodes]
    exact h.kept e he
  entries := hentries.trans h.entries
  directories := hdirectories.trans h.directories

end Pending

/-! ### Runs -/

variable [Console (StateM σ)] [LawfulDisk σ]

/-- A report on the error stream leaves the files alone. -/
theorem Spares.printError {may : Entry σ → Prop} {s₀ : σ} (text : String) :
    Spares may s₀ (Console.printError text : StateM σ Unit) := by
  intro s hs
  obtain ⟨hnodes, hentries, hdirectories, -⟩ :=
    LawfulDisk.printError (Prod.eta ((Console.printError text : StateM σ Unit).run s)).symm
  refine hs.trans ⟨fun e _ => by rw [hnodes], fun e he => by rwa [hnodes], hentries, hdirectories⟩

namespace Pending

variable {may : Entry σ → Prop} {s₀ s s₁ : σ} {f : OutputFile} {t : Disk.Staged (StateM σ)}
  {rest pairs : List (OutputFile × Disk.Staged (StateM σ))}

/-- A file that waits is removed. -/
theorem discard (h : Pending may s₀ s ((f, t) :: rest))
    (hrun : (Disk.discard (m := StateM σ) t).run s = ((), s₁)) : Pending may s₀ s₁ rest := by
  refine h.tail (LawfulDisk.discard (h.staged (f, t) (.head _)) hrun) ?_ ?_ ?_
  · exact fun e _ hne => Function.update_of_ne hne none (node? s)
  · exact fun _ => Function.update_self (temporary t) none (node? s)
  · exact fun e hne => .inl (Function.update_of_ne hne none (node? s))

/-- A file that waits takes a place that may change. -/
theorem commit (h : Pending may s₀ s ((f, t) :: rest))
    (hmay : ∀ e, target? s₀ f.path = some e → may e)
    (hrun : (Disk.commit (m := StateM σ) t f.path).run s = (.ok (), s₁)) :
    Pending may s₀ s₁ rest := by
  have hstaged := h.staged (f, t) (.head _)
  obtain ⟨place, hplace, -, hmoved⟩ := LawfulDisk.commit_ok hstaged hrun
  obtain ⟨content, hcontent⟩ := hstaged
  have hallowed : may place := hmay place (by rw [← h.entries, hplace])
  -- an entry that may not change is not the place
  have hother : ∀ e, ¬ may e → e ≠ place := by
    rintro e he rfl
    exact he hallowed
  refine h.tail hmoved ?_ ?_ ?_
  · intro e he hne
    rw [Function.update_of_ne (hother e he), Function.update_of_ne hne]
  · intro he
    rw [Function.update_of_ne (hother _ he), Function.update_self]
  · intro e hne
    by_cases heq : e = place
    · exact .inr ⟨content, by rw [heq, Function.update_self, hcontent]⟩
    · exact .inl (by rw [Function.update_of_ne heq, Function.update_of_ne hne])

/-- Files that wait are removed and leave only what may change. -/
theorem discardAll (h : Pending may s₀ s pairs) :
    SameBut may s₀ ((OutputFile.discardAll (pairs.map Prod.snd) : StateM σ Unit).run s).2 := by
  induction pairs generalizing s with
  | nil => exact h.sameBut
  | cons p rest ih =>
    obtain ⟨f, t⟩ := p
    rcases hrun : (Disk.discard (m := StateM σ) t).run s with ⟨⟨⟩, s₁⟩
    show SameBut may s₀ ((Disk.discard (m := StateM σ) t >>= fun _ =>
      OutputFile.discardAll (rest.map Prod.snd)).run s).2
    rw [run_bind_of_eq hrun]
    exact ih (h.discard hrun)

/-- Files that wait take their places, or are removed, and leave only what may change. -/
theorem commitAll (quiet : Bool) (h : Pending may s₀ s pairs)
    (hmay : ∀ p ∈ pairs, ∀ e, target? s₀ p.1.path = some e → may e) :
    SameBut may s₀ ((OutputFile.commitAll quiet pairs : StateM σ _).run s).2 := by
  induction pairs generalizing s with
  | nil => exact h.sameBut
  | cons p rest ih =>
    obtain ⟨f, t⟩ := p
    rcases hrun : (Disk.commit (m := StateM σ) t f.path).run s with ⟨cause | ⟨⟩, s₁⟩
    · have hfailed := LawfulDisk.commit_error (h.staged (f, t) (.head _)) hrun
      have hstill := h.congr hfailed.nodes hfailed.entries hfailed.directories
      rw [OutputFile.commitAll, run_bind_of_eq hrun]
      show SameBut may s₀ ((OutputFile.discardAll (((f, t) :: rest).map Prod.snd) >>= _ :
        StateM σ _).run s₁).2
      rw [run_bind_of_eq (Prod.eta _).symm]
      exact hstill.discardAll
    · have hplaced := h.commit (hmay (f, t) (.head _)) hrun
      obtain ⟨s₂, hreport, hnodes, hentries, hdirectories, -⟩ := report_run quiet f s₁
      rw [OutputFile.commitAll, run_bind_of_eq hrun]
      dsimp only
      rw [hreport]
      exact ih (hplaced.congr hnodes hentries hdirectories) fun q hq => hmay q (.tail _ hq)

end Pending

/-- Files are written at their entries, and everything else is left alone. -/
theorem Spares.writeAll {may : Entry σ → Prop} {s₀ : σ} {files : List OutputFile} (quiet : Bool)
    (hmay : ∀ f ∈ files, ∀ e, target? s₀ f.path = some e → may e) :
    Spares may s₀ (OutputFile.writeAll quiet files : StateM σ _) := by
  intro s hs
  rcases firstRefused_or_staging files s with ⟨f, e, hrefused⟩ | ⟨ts, s₁, hstaging⟩
  · obtain ⟨s', hrun, hsame⟩ := writeAll_of_firstRefused quiet hrefused
    rw [hrun]
    exact hs.trans (.of_becomes may hsame)
  · obtain ⟨hready, hbecomes⟩ := hstaging.ready
    have hpending : Pending may s₀ s₁ (files.zip ts) := .of_ready hs hready hbecomes
    rw [OutputFile.writeAll, run_bind_of_eq (stageAll_of_staging hstaging)]
    exact hpending.commitAll quiet fun p hp => hmay p.1 (List.of_mem_zip hp).1

end

end SovdConfig
