import SovdConfig.Command.Output
import SovdConfig.Proofs.Attempt
import SovdConfig.Proofs.Disk.Laws

namespace SovdConfig

/-!
# Making files ready

Staging is all or nothing, on every lawful file system.  Main definitions:

* `OutputFile.Refused`, `OutputFile.Accepted` — how a file fails to be made ready, at each step that
  can fail, and how it is made ready;
* `FirstRefused`, `Staging` — the same of files that are made ready one after the other;
* `Ready` — the state in which files are ready, the invariant of what follows.

Main statements:

* `stageAll_of_firstRefused` — if a file is refused, its failure is the answer and nothing has
  changed;
* `stageAll_of_staging` — otherwise every file is there under a temporary name.
-/

open DiskView

namespace OutputFile

variable {σ : Type} [Disk (StateM σ)] [DiskView σ]

/-! ### One file -/

/-- The content of a file, as bytes. -/
def bytes (f : OutputFile) : Bytes := Text.encodeUtf8 f.content

/-- How a file is refused: it is to replace a directory, its temporary file cannot be made, or
    that file cannot be given its mode or its content. -/
inductive Refused (f : OutputFile) (s : σ) : Failure → Prop
  | directory : isDirectory s f.path = true → Refused f s (.outputIsDirectory f.noun f.path)
  | temporary {cause : DiskFault} {tried : Path} {s₁ : σ} :
    isDirectory s f.path = false →
    (Disk.createTemporary (m := StateM σ) f.directory).run s = (.error (cause, tried), s₁) →
      Refused f s (.staging f.noun f.path cause (some tried))
  | mode {cause : DiskFault} {t : Disk.Staged (StateM σ)} {s₁ s₂ : σ} :
    isDirectory s f.path = false →
    (Disk.createTemporary (m := StateM σ) f.directory).run s = (.ok t, s₁) →
    (Disk.setMode (m := StateM σ) t).run s₁ = (.error cause, s₂) →
      Refused f s (.staging f.noun f.path cause none)
  | content {cause : DiskFault} {tried : Path} {t : Disk.Staged (StateM σ)} {s₁ s₂ s₃ : σ} :
    isDirectory s f.path = false →
    (Disk.createTemporary (m := StateM σ) f.directory).run s = (.ok t, s₁) →
    (Disk.setMode (m := StateM σ) t).run s₁ = (.ok (), s₂) →
    (Disk.fill (m := StateM σ) t f.bytes).run s₂ = (.error (cause, tried), s₃) →
      Refused f s (.staging f.noun f.path cause (some tried))

/-- How a file is made ready: no step fails. -/
inductive Accepted (f : OutputFile) (s : σ) : Disk.Staged (StateM σ) → σ → Prop
  | intro {t : Disk.Staged (StateM σ)} {s₁ s₂ s₃ : σ} :
    isDirectory s f.path = false →
    (Disk.createTemporary (m := StateM σ) f.directory).run s = (.ok t, s₁) →
    (Disk.setMode (m := StateM σ) t).run s₁ = (.ok (), s₂) →
    (Disk.fill (m := StateM σ) t f.bytes).run s₂ = (.ok (), s₃) →
      Accepted f s t s₃

/-- A file is refused or made ready. -/
theorem refused_or_accepted (f : OutputFile) (s : σ) :
    (∃ e, Refused f s e) ∨ ∃ t s', Accepted f s t s' := by
  cases hdirectory : isDirectory s f.path with
  | true => exact .inl ⟨_, .directory hdirectory⟩
  | false =>
    rcases hmake : (Disk.createTemporary (m := StateM σ) f.directory).run s with ⟨⟨e⟩ | t, s₁⟩
    · exact .inl ⟨_, .temporary hdirectory hmake⟩
    · rcases hmode : (Disk.setMode (m := StateM σ) t).run s₁ with ⟨e | ⟨⟩, s₂⟩
      · exact .inl ⟨_, .mode hdirectory hmake hmode⟩
      · rcases hfill : (Disk.fill (m := StateM σ) t f.bytes).run s₂ with ⟨⟨e⟩ | ⟨⟩, s₃⟩
        · exact .inl ⟨_, .content hdirectory hmake hmode hfill⟩
        · exact .inr ⟨t, s₃, .intro hdirectory hmake hmode hfill⟩

/-- The failure of a file that is refused names the file. -/
theorem Refused.names {f : OutputFile} {s : σ} {e : Failure} (h : Refused f s e) :
    ∃ outermost causes more, e.chain = outermost :: causes ∧
      outermost = Failure.writing f.noun f.path ++ more := by
  cases h with
  | directory _ => exact ⟨_, [], ": is a directory", rfl, rfl⟩
  | temporary _ _ => exact ⟨_, _, "", rfl, by simp⟩
  | mode _ _ _ => exact ⟨_, _, "", rfl, by simp⟩
  | content _ _ _ _ => exact ⟨_, _, "", rfl, by simp⟩

variable [Console (StateM σ)] [LawfulDisk σ]

/-- A temporary file that has been made, and has its mode, is there without content. -/
theorem becomes_created {directory : Path} {s s₁ s₂ : σ} {t : Disk.Staged (StateM σ)}
    {r : Except DiskFault Unit}
    (hmake : (Disk.createTemporary (m := StateM σ) directory).run s = (.ok t, s₁))
    (hmode : (Disk.setMode (m := StateM σ) t).run s₁ = (r, s₂)) :
    node? s (temporary t) = none ∧
      Becomes s s₂ (Function.update (node? s) (temporary t) (some (.file []))) := by
  obtain ⟨hfree, hcreated⟩ := LawfulDisk.createTemporary_ok hmake
  have hset := LawfulDisk.setMode hmode
  rw [hcreated.nodes] at hset
  exact ⟨hfree, hcreated.trans hset⟩

/-- A temporary file at a name that was free leaves no trace when it is discarded. -/
theorem becomes_discarded {s s₁ : σ} {t : Disk.Staged (StateM σ)} {part : Bytes}
    (hfree : node? s (temporary t) = none)
    (hthere : Becomes s s₁ (Function.update (node? s) (temporary t) (some (.file part)))) :
    ∃ s₂, (Disk.discard (m := StateM σ) t).run s₁ = ((), s₂) ∧ Becomes s s₂ (node? s) := by
  have hstaged : IsStaged s₁ t := hthere.isStaged (Function.update_self ..)
  have hgone := LawfulDisk.discard hstaged rfl
  rw [hthere.nodes, Function.update_idem, ← hfree, Function.update_eq_self] at hgone
  exact ⟨_, rfl, hthere.trans hgone⟩

/-- A file that is made ready is under a name that was free, and nothing else has changed. -/
theorem Accepted.becomes {f : OutputFile} {s s' : σ} {t : Disk.Staged (StateM σ)}
    (h : Accepted f s t s') :
    node? s (temporary t) = none ∧
      Becomes s s' (Function.update (node? s) (temporary t) (some (.file f.bytes))) := by
  cases h with
  | intro _ hmake hmode hfill =>
    obtain ⟨hfree, hempty⟩ := becomes_created hmake hmode
    have hfull := LawfulDisk.fill_ok (hempty.isStaged (Function.update_self ..)) hfill
    rw [hempty.nodes, Function.update_idem] at hfull
    exact ⟨hfree, hempty.trans hfull⟩

/-- Once a temporary file is there it only has to be prepared. -/
theorem run_stage_of_created {f : OutputFile} {s s₁ : σ} {t : Disk.Staged (StateM σ)}
    (hdirectory : isDirectory s f.path = false)
    (hmake : (Disk.createTemporary (m := StateM σ) f.directory).run s = (.ok t, s₁)) :
    (f.stage : StateM σ _).run s = (f.prepare t : StateM σ _).run s₁ := by
  rw [stage, run_bind_of_eq (LawfulDisk.isDirectory_run f.path s), hdirectory]
  show (Disk.createTemporary (m := StateM σ) f.directory >>= _).run s = _
  rw [run_bind_of_eq hmake]

/-- A file that is made ready is what staging answers. -/
theorem Accepted.run_stage {f : OutputFile} {s s' : σ} {t : Disk.Staged (StateM σ)}
    (h : Accepted f s t s') : (f.stage : StateM σ _).run s = (.ok t, s') := by
  cases h with
  | intro hdirectory hmake hmode hfill =>
    rw [run_stage_of_created hdirectory hmake, prepare, run_bind_of_eq hmode]
    show (Disk.fill (m := StateM σ) t f.bytes >>= _).run _ = _
    rw [run_bind_of_eq hfill]
    rfl

/-- If a file is refused, its failure is the answer and nothing has changed. -/
theorem Refused.run_stage {f : OutputFile} {s : σ} {e : Failure} (h : Refused f s e) :
    ∃ s', (f.stage : StateM σ _).run s = (.error e, s') ∧ Becomes s s' (node? s) := by
  have hasked := LawfulDisk.isDirectory_run f.path s
  cases h with
  | directory hdirectory =>
    rw [stage, run_bind_of_eq hasked, hdirectory]
    exact ⟨s, rfl, rfl, rfl, rfl, rfl⟩
  | @temporary cause tried s₁ hdirectory hmake =>
    refine ⟨s₁, ?_, LawfulDisk.createTemporary_error hmake⟩
    rw [stage, run_bind_of_eq hasked, hdirectory]
    show (Disk.createTemporary (m := StateM σ) f.directory >>= _).run s = _
    rw [run_bind_of_eq hmake]
    rfl
  | @mode cause t s₁ s₂ hdirectory hmake hmode =>
    obtain ⟨hfree, hempty⟩ := becomes_created hmake hmode
    obtain ⟨s₃, hdiscard, hback⟩ := becomes_discarded hfree hempty
    refine ⟨s₃, ?_, hback⟩
    rw [run_stage_of_created hdirectory hmake, prepare, run_bind_of_eq hmode]
    show (Disk.discard (m := StateM σ) t >>= _).run _ = _
    rw [run_bind_of_eq hdiscard]
    rfl
  | @content cause tried t s₁ s₂ s₃ hdirectory hmake hmode hfill =>
    obtain ⟨hfree, hempty⟩ := becomes_created hmake hmode
    -- whatever a failure has left in the file goes with the file
    obtain ⟨part, hpart⟩ :=
      LawfulDisk.fill_error (hempty.isStaged (Function.update_self ..)) hfill
    rw [hempty.nodes, Function.update_idem] at hpart
    obtain ⟨s₄, hdiscard, hback⟩ := becomes_discarded hfree (hempty.trans hpart)
    refine ⟨s₄, ?_, hback⟩
    rw [run_stage_of_created hdirectory hmake, prepare, run_bind_of_eq hmode]
    show (Disk.fill (m := StateM σ) t f.bytes >>= _).run _ = _
    rw [run_bind_of_eq hfill]
    show (Disk.discard (m := StateM σ) t >>= _).run _ = _
    rw [run_bind_of_eq hdiscard]
    rfl

end OutputFile

/-! ### Several files -/

section

variable {σ : Type} [Disk (StateM σ)] [DiskView σ]

/-- How files are made ready one after the other. -/
inductive Staging : List OutputFile → σ → List (Disk.Staged (StateM σ)) → σ → Prop
  | nil {s : σ} : Staging [] s [] s
  | cons {f : OutputFile} {rest : List OutputFile} {s s₁ s' : σ} {t : Disk.Staged (StateM σ)}
      {ts : List (Disk.Staged (StateM σ))} :
    f.Accepted s t s₁ → Staging rest s₁ ts s' → Staging (f :: rest) s (t :: ts) s'

/-- How one of several files is refused: those before it are made ready. -/
inductive FirstRefused : List OutputFile → σ → OutputFile → Failure → Prop
  | here {f : OutputFile} {rest : List OutputFile} {s : σ} {e : Failure} :
    f.Refused s e → FirstRefused (f :: rest) s f e
  | later {g : OutputFile} {rest : List OutputFile} {s s₁ : σ} {t : Disk.Staged (StateM σ)}
      {f : OutputFile} {e : Failure} :
    g.Accepted s t s₁ → FirstRefused rest s₁ f e → FirstRefused (g :: rest) s f e

/-- All files are made ready, or one is the first to be refused. -/
theorem firstRefused_or_staging (files : List OutputFile) (s : σ) :
    (∃ f e, FirstRefused files s f e) ∨ ∃ ts s', Staging files s ts s' := by
  induction files generalizing s with
  | nil => exact .inr ⟨[], s, .nil⟩
  | cons f rest ih =>
    rcases f.refused_or_accepted s with ⟨e, hrefused⟩ | ⟨t, s₁, haccepted⟩
    · exact .inl ⟨f, e, .here hrefused⟩
    · rcases ih s₁ with ⟨g, e, hlater⟩ | ⟨ts, s', hstaging⟩
      · exact .inl ⟨g, e, .later haccepted hlater⟩
      · exact .inr ⟨t :: ts, s', .cons haccepted hstaging⟩

/-- The failure names the file that is refused. -/
theorem FirstRefused.names {files : List OutputFile} {s : σ} {f : OutputFile} {e : Failure}
    (h : FirstRefused files s f e) :
    ∃ outermost causes more, e.chain = outermost :: causes ∧
      outermost = Failure.writing f.noun f.path ++ more := by
  induction h with
  | here hrefused => exact hrefused.names
  | later _ _ ih => exact ih

/-- A state in which files are ready: each is there under a temporary name of its own that was free,
    and everything else is as it was. -/
structure Ready (was : Entry σ → Option Node) (s : σ)
    (pairs : List (OutputFile × Disk.Staged (StateM σ))) : Prop where
  distinct : (pairs.map fun p => temporary p.2).Nodup
  free : ∀ p ∈ pairs, was (temporary p.2) = none
  content : ∀ p ∈ pairs, node? s (temporary p.2) = some (.file p.1.bytes)
  others : ∀ e, e ∉ pairs.map (fun p => temporary p.2) → node? s e = was e

variable [Console (StateM σ)] [LawfulDisk σ]

/-- A file that is made ready before the others are is ready with them. -/
theorem Ready.cons {f : OutputFile} {s s₁ s' : σ} {t : Disk.Staged (StateM σ)}
    {pairs : List (OutputFile × Disk.Staged (StateM σ))} (h : f.Accepted s t s₁)
    (hrest : Ready (node? s₁) s' pairs) : Ready (node? s) s' ((f, t) :: pairs) := by
  obtain ⟨hfree, hbecomes⟩ := h.becomes
  have hthere : node? s₁ (temporary t) = some (.file f.bytes) := by
    rw [hbecomes.nodes, Function.update_self]
  have helse : ∀ e, e ≠ temporary t → node? s₁ e = node? s e := by
    intro e he
    rw [hbecomes.nodes, Function.update_of_ne he]
  -- the names that are taken later were free, and the name of `t` was not
  have hnew : ∀ p ∈ pairs, temporary p.2 ≠ temporary t := by
    intro p hp heq
    have hnone := hrest.free p hp
    rw [heq, hthere] at hnone
    cases hnone
  have hmem : temporary t ∉ pairs.map fun p => temporary p.2 := by
    intro hmem
    obtain ⟨p, hp, heq⟩ := List.mem_map.1 hmem
    exact hnew p hp heq
  refine ⟨?_, ?_, ?_, ?_⟩
  · exact List.nodup_cons.2 ⟨hmem, hrest.distinct⟩
  · intro p hp
    rcases List.mem_cons.1 hp with rfl | hp
    · exact hfree
    · rw [← helse _ (hnew p hp)]
      exact hrest.free p hp
  · intro p hp
    rcases List.mem_cons.1 hp with rfl | hp
    · rw [hrest.others _ hmem]
      exact hthere
    · exact hrest.content p hp
  · intro e he
    obtain ⟨hne, hnot⟩ := not_or.1 (mt List.mem_cons.2 he)
    rw [hrest.others e hnot, helse e hne]

/-- Files that have been made ready are ready. -/
theorem Staging.ready {files : List OutputFile} {s s' : σ} {ts : List (Disk.Staged (StateM σ))}
    (h : Staging files s ts s') :
    Ready (node? s) s' (files.zip ts) ∧ Becomes s s' (node? s') := by
  induction h with
  | nil =>
    refine ⟨⟨List.nodup_nil, ?_, ?_, fun e _ => rfl⟩, rfl, rfl, rfl, rfl⟩
    · intro p hp
      cases hp
    · intro p hp
      cases hp
  | cons haccepted _ ih => exact ⟨ih.1.cons haccepted, haccepted.becomes.2.trans ih.2⟩

/-- Files that are to replace directories are not made ready. -/
theorem Staging.isDirectory_eq_false {files : List OutputFile} {s s' : σ}
    {ts : List (Disk.Staged (StateM σ))} (h : Staging files s ts s') {f : OutputFile}
    (hf : f ∈ files) : isDirectory s f.path = false := by
  induction h with
  | nil => cases hf
  | @cons g rest s s₁ s' t ts haccepted _ ih =>
    rcases List.mem_cons.1 hf with rfl | hf
    · cases haccepted with
      | intro hdirectory _ _ _ => exact hdirectory
    · rw [← haccepted.becomes.2.directories]
      exact ih hf

/-- If a file is to replace a directory, one is refused. -/
theorem firstRefused_of_isDirectory {files : List OutputFile} {s : σ} {f : OutputFile}
    (hf : f ∈ files) (hdirectory : isDirectory s f.path = true) :
    ∃ g e, FirstRefused files s g e := by
  rcases firstRefused_or_staging files s with hrefused | ⟨ts, s', hstaging⟩
  · exact hrefused
  · rw [hstaging.isDirectory_eq_false hf] at hdirectory
    cases hdirectory

/-- If a file is refused, its failure is the answer and nothing has changed. -/
theorem stageAll_of_firstRefused {files : List OutputFile} {s : σ} {f : OutputFile} {e : Failure}
    (h : FirstRefused files s f e) :
    ∃ s', (OutputFile.stageAll files : StateM σ _).run s = (.error e, s') ∧
      Becomes s s' (node? s) := by
  induction h with
  | here hrefused =>
    obtain ⟨s', hrun, hback⟩ := hrefused.run_stage
    refine ⟨s', ?_, hback⟩
    rw [OutputFile.stageAll, run_bind_of_eq hrun]
    rfl
  | later haccepted _ ih =>
    obtain ⟨hfree, hthere⟩ := haccepted.becomes
    obtain ⟨s₂, hrun, hsame⟩ := ih
    rw [hthere.nodes] at hsame
    obtain ⟨s', hdiscard, hback⟩ := OutputFile.becomes_discarded hfree (hthere.trans hsame)
    refine ⟨s', ?_, hback⟩
    rw [OutputFile.stageAll, run_bind_of_eq haccepted.run_stage]
    show (OutputFile.stageAll _ >>= _ : StateM σ _).run _ = _
    rw [run_bind_of_eq hrun]
    show (Disk.discard (m := StateM σ) _ >>= _).run _ = _
    rw [run_bind_of_eq hdiscard]
    rfl

/-- Files that are made ready are what staging answers. -/
theorem stageAll_of_staging {files : List OutputFile} {s s' : σ}
    {ts : List (Disk.Staged (StateM σ))} (h : Staging files s ts s') :
    (OutputFile.stageAll files : StateM σ _).run s = (.ok ts, s') := by
  induction h with
  | nil => rfl
  | cons haccepted _ ih =>
    rw [OutputFile.stageAll, run_bind_of_eq haccepted.run_stage]
    show (OutputFile.stageAll _ >>= _ : StateM σ _).run _ = _
    rw [run_bind_of_eq ih]
    rfl

end

end SovdConfig
