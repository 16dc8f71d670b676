import SovdConfig.Proofs.Command.Staging

namespace SovdConfig

/-!
# Putting files in place

Files that are ready take their places one after the other, until one of them cannot.  Main
definitions:

* `Placing` — which files have taken their places, with what outcome;
* `OutputFile.notices` — what is reported of them.

Main statements:

* `discardAll_run` — temporary files that are removed leave no trace;
* `commitAll_run` — every run puts files in place, reports them, and leaves no temporary file;
* `Placing.of_ok` — without a failure each file is in its place, if their names differ;
* `Placing.of_error` — with one, the files before the one that fails are.
-/

open DiskView

/-- What is reported of files that have taken their places. -/
def OutputFile.notices (quiet : Bool) (placed : List OutputFile) : String :=
  if quiet then "" else String.join (placed.map fun f => notice f.title f.path)

section

variable {σ : Type} [Disk (StateM σ)] [DiskView σ]

/-! ### Outcomes -/

/-- How files take their places, from what is at the entries before to what is there after: all of
    them do, or those before one that cannot. -/
inductive Placing (leads : Path → Option (Entry σ)) :
    (Entry σ → Option Node) → List OutputFile → List OutputFile → Except Failure Unit →
      (Entry σ → Option Node) → Prop
  | all {nodes : Entry σ → Option Node} : Placing leads nodes [] [] (.ok ()) nodes
  | stop {nodes : Entry σ → Option Node} {f : OutputFile} {rest : List OutputFile}
      {cause : DiskFault} :
    Placing leads nodes (f :: rest) [] (.error (.committing f.noun f.path cause)) nodes
  | move {nodes nodes' : Entry σ → Option Node} {f : OutputFile} {rest placed : List OutputFile}
      {r : Except Failure Unit} {e : Entry σ} :
    leads f.path = some e → nameOf e = Path.endOf f.path.bytes →
    Placing leads (Function.update nodes e (some (.file f.bytes))) rest placed r nodes' →
      Placing leads nodes (f :: rest) (f :: placed) r nodes'

/-- Of no files nothing takes a place. -/
theorem Placing.nodes_eq {leads : Path → Option (Entry σ)} {nodes nodes' : Entry σ → Option Node}
    {placed : List OutputFile} {r : Except Failure Unit}
    (h : Placing leads nodes [] placed r nodes') : nodes' = nodes := by
  cases h
  rfl

/-- A file that has taken its place is where its path leads. -/
theorem Placing.cons_cons {leads : Path → Option (Entry σ)} {nodes nodes' : Entry σ → Option Node}
    {f : OutputFile} {rest placed : List OutputFile} {r : Except Failure Unit}
    (h : Placing leads nodes (f :: rest) (f :: placed) r nodes') :
    ∃ e, leads f.path = some e ∧
      Placing leads (Function.update nodes e (some (.file f.bytes))) rest placed r nodes' := by
  cases h with
  | move hleads _ hrest => exact ⟨_, hleads, hrest⟩

/-- Without a failure each file is in its place, and everything else is as it was.  The names of the
    files have to differ, as a later one would replace an earlier one. -/
theorem Placing.of_ok {leads : Path → Option (Entry σ)} {nodes nodes' : Entry σ → Option Node}
    {files placed : List OutputFile} {r : Except Failure Unit}
    (h : Placing leads nodes files placed r nodes') (hr : r = .ok ())
    (hnames : files.Pairwise fun f g => Path.endOf f.path.bytes ≠ Path.endOf g.path.bytes) :
    placed = files ∧
      (∀ f ∈ files, ∃ e, leads f.path = some e ∧ nameOf e = Path.endOf f.path.bytes ∧
        nodes' e = some (.file f.bytes)) ∧
      ∀ e, (∀ f ∈ files, leads f.path ≠ some e) → nodes' e = nodes e := by
  induction h with
  | all =>
    refine ⟨rfl, ?_, fun e _ => rfl⟩
    intro f hf
    cases hf
  | stop => cases hr
  | @move nodes nodes' f rest placed r e hleads hname _ ih =>
    obtain ⟨hfirst, hlater⟩ := List.pairwise_cons.1 hnames
    obtain ⟨hplaced, hcontent, hothers⟩ := ih hr hlater
    -- later files have other names, so they are not where this one is
    have hne : ∀ g ∈ rest, leads g.path ≠ some e := by
      intro g hg heq
      obtain ⟨e', hleads', hname', -⟩ := hcontent g hg
      obtain rfl : e' = e := Option.some.inj (hleads'.symm.trans heq)
      exact hfirst g hg (hname.symm.trans hname')
    refine ⟨by rw [hplaced], ?_, ?_⟩
    · intro g hg
      rcases List.mem_cons.1 hg with rfl | hg
      · refine ⟨e, hleads, hname, ?_⟩
        rw [hothers e hne, Function.update_self]
      · exact hcontent g hg
    · intro e' he'
      have hother : e' ≠ e := by
        rintro rfl
        exact he' f (.head _) hleads
      rw [hothers e' fun g hg => he' g (.tail _ hg), Function.update_of_ne hother]

/-- With a failure the files before one that cannot take its place are in theirs, as if there were
    no others. -/
theorem Placing.of_error {leads : Path → Option (Entry σ)} {nodes nodes' : Entry σ → Option Node}
    {files placed : List OutputFile} {r : Except Failure Unit} {e : Failure}
    (h : Placing leads nodes files placed r nodes') (hr : r = .error e) :
    ∃ f rest cause, files = placed ++ f :: rest ∧ e = .committing f.noun f.path cause ∧
      Placing leads nodes placed placed (.ok ()) nodes' := by
  induction h with
  | all => cases hr
  | @stop nodes f rest cause =>
    cases hr
    exact ⟨f, rest, cause, rfl, rfl, .all⟩
  | @move nodes nodes' g rest placed r entry hleads hname _ ih =>
    obtain ⟨f, rest', cause, hfiles, he, hplaced⟩ := ih hr
    exact ⟨f, rest', cause, by rw [hfiles]; rfl, he, .move hleads hname hplaced⟩

/-! ### The invariant -/

/-- Whether files are ready depends only on what is at the entries. -/
theorem Ready.congr {was : Entry σ → Option Node} {s s' : σ}
    {pairs : List (OutputFile × Disk.Staged (StateM σ))} (h : Ready was s pairs)
    (hnodes : node? s' = node? s) : Ready was s' pairs where
  distinct := h.distinct
  free := h.free
  content := by rw [hnodes]; exact h.content
  others := by rw [hnodes]; exact h.others

/-- Of files that are ready the first is still there. -/
theorem Ready.isStaged {was : Entry σ → Option Node} {s : σ} {f : OutputFile}
    {t : Disk.Staged (StateM σ)} {pairs : List (OutputFile × Disk.Staged (StateM σ))}
    (h : Ready was s ((f, t) :: pairs)) : IsStaged s t :=
  ⟨f.bytes, h.content (f, t) (.head _)⟩

/-- If no file is ready, everything is as it was. -/
theorem Ready.node?_eq {was : Entry σ → Option Node} {s : σ} (h : Ready was s []) :
    node? s = was := by
  ext1 e
  exact h.others e (by simp)

/-- Files that are ready stay so when the first of them goes, and something that is none of them
    takes the place of an entry. -/
theorem Ready.tail {was : Entry σ → Option Node} {s s' : σ} {f : OutputFile}
    {t : Disk.Staged (StateM σ)} {pairs : List (OutputFile × Disk.Staged (StateM σ))}
    (h : Ready was s ((f, t) :: pairs)) {e : Entry σ} {node : Option Node}
    (he : ∀ p ∈ pairs, temporary p.2 ≠ e)
    (hnodes : node? s' =
      Function.update (Function.update (node? s) (temporary t) none) e node) :
    Ready (Function.update was e node) s' pairs := by
  obtain ⟨hmem, hdistinct⟩ := List.nodup_cons.1 h.distinct
  have hne : ∀ p ∈ pairs, temporary p.2 ≠ temporary t := by
    intro p hp heq
    exact hmem (List.mem_map.2 ⟨p, hp, heq⟩)
  refine ⟨hdistinct, ?_, ?_, ?_⟩
  · intro p hp
    rw [Function.update_of_ne (he p hp)]
    exact h.free p (.tail _ hp)
  · intro p hp
    rw [hnodes, Function.update_of_ne (he p hp), Function.update_of_ne (hne p hp)]
    exact h.content p (.tail _ hp)
  · intro e' he'
    rw [hnodes]
    -- the new entry counts before the one that is gone, should they be the same
    by_cases heq : e' = e
    · rw [heq, Function.update_self, Function.update_self]
    · rw [Function.update_of_ne heq, Function.update_of_ne heq]
      by_cases ht : e' = temporary t
      · rw [ht, Function.update_self]
        exact (h.free (f, t) (.head _)).symm
      · rw [Function.update_of_ne ht]
        exact h.others e' (mt List.mem_cons.1 (not_or.2 ⟨ht, he'⟩))

/-! ### Runs -/

variable [Console (StateM σ)] [LawfulDisk σ]

/-- Temporary files that are removed leave no trace. -/
theorem discardAll_run {was : Entry σ → Option Node} {s : σ}
    {pairs : List (OutputFile × Disk.Staged (StateM σ))} (h : Ready was s pairs) :
    ∃ s', (OutputFile.discardAll (pairs.map Prod.snd) : StateM σ Unit).run s = ((), s') ∧
      Becomes s s' was := by
  induction pairs generalizing s with
  | nil => exact ⟨s, rfl, h.node?_eq, rfl, rfl, rfl⟩
  | cons p rest ih =>
    obtain ⟨f, t⟩ := p
    rcases hdiscard : (Disk.discard (m := StateM σ) t).run s with ⟨⟨⟩, s₁⟩
    have hgone := LawfulDisk.discard h.isStaged hdiscard
    -- nothing was under the temporary name, so its end restores what was
    have hrest : Ready was s₁ rest := by
      have hfree : was (temporary t) = none := h.free (f, t) (.head _)
      have hne : ∀ p ∈ rest, temporary p.2 ≠ temporary t := by
        intro p hp heq
        exact (List.nodup_cons.1 h.distinct).1 (List.mem_map.2 ⟨p, hp, heq⟩)
      have htail : Ready (Function.update was (temporary t) none) s₁ rest := by
        apply h.tail hne
        rw [hgone.nodes, Function.update_idem]
      rwa [← hfree, Function.update_eq_self] at htail
    obtain ⟨s', hrun, hback⟩ := ih hrest
    refine ⟨s', ?_, hgone.trans hback⟩
    show (Disk.discard (m := StateM σ) t >>= _).run s = _
    rw [run_bind_of_eq hdiscard]
    exact hrun

/-- The report of a file that has taken its place changes no file. -/
theorem report_run (quiet : Bool) (f : OutputFile) (s : σ) :
    ∃ s', (∀ next : StateM σ (Except Failure Unit),
        (if !quiet then do
            Console.printError (OutputFile.notice f.title f.path)
            next
          else next).run s = next.run s') ∧
      node? s' = node? s ∧ target? s' = target? s ∧ isDirectory s' = isDirectory s ∧
      errors s' = errors s ++ OutputFile.notices quiet [f] := by
  cases quiet with
  | true =>
    exact ⟨s, fun _ => rfl, rfl, rfl, rfl, by simp [OutputFile.notices]⟩
  | false =>
    rcases hprint : (Console.printError (m := StateM σ) (OutputFile.notice f.title f.path)).run s
      with ⟨⟨⟩, s'⟩
    obtain ⟨hnodes, hentries, hdirectories, herrors⟩ := LawfulDisk.printError hprint
    refine ⟨s', fun next => ?_, hnodes, hentries, hdirectories, ?_⟩
    · show (Console.printError (m := StateM σ) _ >>= _).run s = _
      rw [run_bind_of_eq hprint]
    · simpa [OutputFile.notices] using herrors

/-- What is reported of one file after the other. -/
theorem OutputFile.notices_cons (quiet : Bool) (f : OutputFile) (placed : List OutputFile) :
    notices quiet (f :: placed) = notices quiet [f] ++ notices quiet placed := by
  cases quiet <;> simp [notices, String.join_cons]

/-- One step that fails: the renaming has done nothing, all files are still ready, and they are
    removed. -/
theorem commitAll_cons_error {was : Entry σ → Option Node} {s s₁ : σ} {f : OutputFile}
    {t : Disk.Staged (StateM σ)} {rest : List (OutputFile × Disk.Staged (StateM σ))}
    {cause : DiskFault} (quiet : Bool) (h : Ready was s ((f, t) :: rest))
    (hcommit : (Disk.commit (m := StateM σ) t f.path).run s = (.error cause, s₁)) :
    ∃ s', (OutputFile.commitAll quiet ((f, t) :: rest) : StateM σ _).run s =
        (.error (.committing f.noun f.path cause), s') ∧ Becomes s s' was := by
  have hsame := LawfulDisk.commit_error h.isStaged hcommit
  obtain ⟨s', hdiscard, hback⟩ := discardAll_run (h.congr hsame.nodes)
  refine ⟨s', ?_, hsame.trans hback⟩
  rw [OutputFile.commitAll, run_bind_of_eq hcommit]
  show (OutputFile.discardAll (((f, t) :: rest).map Prod.snd) >>= _ : StateM σ _).run _ = _
  rw [run_bind_of_eq hdiscard]
  rfl

/-- One step that succeeds: the file is where its path leads and is reported, and the others are
    still ready, unless one of them was there. -/
theorem commitAll_cons_ok {was : Entry σ → Option Node} {s s₁ : σ} {f : OutputFile}
    {t : Disk.Staged (StateM σ)} {rest : List (OutputFile × Disk.Staged (StateM σ))}
    (quiet : Bool) (h : Ready was s ((f, t) :: rest))
    (hfresh : ∀ q ∈ rest, target? s f.path ≠ some (temporary q.2))
    (hcommit : (Disk.commit (m := StateM σ) t f.path).run s = (.ok (), s₁)) :
    ∃ e s₂, target? s f.path = some e ∧ nameOf e = Path.endOf f.path.bytes ∧
      Ready (Function.update was e (some (.file f.bytes))) s₂ rest ∧
      (OutputFile.commitAll quiet ((f, t) :: rest) : StateM σ _).run s =
        (OutputFile.commitAll quiet rest : StateM σ _).run s₂ ∧
      target? s₂ = target? s ∧ isDirectory s₂ = isDirectory s ∧
      errors s₂ = errors s ++ OutputFile.notices quiet [f] := by
  obtain ⟨e, hentry, hname, hmoved⟩ := LawfulDisk.commit_ok h.isStaged hcommit
  rw [h.content (f, t) (.head _)] at hmoved
  have hne : ∀ q ∈ rest, temporary q.2 ≠ e := by
    rintro q hq rfl
    exact hfresh q hq hentry
  have hready := h.tail hne hmoved.nodes
  obtain ⟨s₂, hreport, hnodes, hentries, hdirectories, herrors⟩ := report_run quiet f s₁
  refine ⟨e, s₂, hentry, hname, hready.congr hnodes, ?_, hentries.trans hmoved.entries,
    hdirectories.trans hmoved.directories, ?_⟩
  · rw [OutputFile.commitAll, run_bind_of_eq hcommit]
    exact hreport _
  · rw [herrors, hmoved.errors]

/-- Files that are ready take their places until one of them cannot; those that have are reported,
    and no temporary file is left.  No temporary file is where a file is to be. -/
theorem commitAll_run {was : Entry σ → Option Node} {s : σ}
    {pairs : List (OutputFile × Disk.Staged (StateM σ))} (quiet : Bool) (h : Ready was s pairs)
    (hfresh : ∀ p ∈ pairs, ∀ q ∈ pairs, target? s p.1.path ≠ some (temporary q.2)) :
    ∃ placed r s', (OutputFile.commitAll quiet pairs : StateM σ _).run s = (r, s') ∧
      Placing (target? s) was (pairs.map Prod.fst) placed r (node? s') ∧
      target? s' = target? s ∧ isDirectory s' = isDirectory s ∧
      errors s' = errors s ++ OutputFile.notices quiet placed := by
  -- along the run the invariant `Ready` is about ever fewer files and ever more entries
  induction pairs generalizing was s with
  | nil =>
    refine ⟨[], .ok (), s, rfl, ?_, rfl, rfl, by simp [OutputFile.notices, String.join]⟩
    rw [h.node?_eq]
    exact .all
  | cons p rest ih =>
    obtain ⟨f, t⟩ := p
    rcases hcommit : (Disk.commit (m := StateM σ) t f.path).run s with ⟨cause | ⟨⟩, s₁⟩
    · obtain ⟨s', hrun, hback⟩ := commitAll_cons_error quiet h hcommit
      refine ⟨[], _, s', hrun, ?_, hback.entries, hback.directories, ?_⟩
      · rw [hback.nodes]
        exact .stop
      · simpa [OutputFile.notices, String.join] using hback.errors
    · have hlater : ∀ q ∈ rest, target? s f.path ≠ some (temporary q.2) :=
        fun q hq => hfresh (f, t) (.head _) q (.tail _ hq)
      obtain ⟨e, s₂, hentry, hname, hready, hstep, hways, hdirectories, herrors⟩ :=
        commitAll_cons_ok quiet h hlater hcommit
      have hapart : ∀ p ∈ rest, ∀ q ∈ rest, target? s₂ p.1.path ≠ some (temporary q.2) := by
        intro p hp q hq
        rw [hways]
        exact hfresh p (.tail _ hp) q (.tail _ hq)
      obtain ⟨placed, r, s', hrun, hplacing, hways', hdirectories', herrors'⟩ := ih hready hapart
      rw [hways] at hplacing
      refine ⟨f :: placed, r, s', hstep.trans hrun, .move hentry hname hplacing,
        hways'.trans hways, hdirectories'.trans hdirectories, ?_⟩
      rw [herrors', herrors, OutputFile.notices_cons quiet f placed, String.append_assoc]

end

end SovdConfig
