import SovdConfig.Proofs.Attempt
import SovdConfig.Proofs.Disk.Laws

namespace SovdConfig

/-!
# File trees are lawful

Programs whose state is a `World` work on a file system as the laws describe it.  Main statements:

* `FileTree.entryOf?_congr` — where paths lead is up to the directories alone;
* `FileTree.commit_ok` — what a file that takes its place changes;
* the instance of `LawfulDisk` for `World`.
-/

/-- The location of a place, whether or not something is there. -/
@[simp] def Place.location : Place → Location
  | taken location _ => location
  | free directory name => directory ++ [name]

/-- What is at a place. -/
@[simp] def Place.node? : Place → Option Node
  | taken _ node => some node
  | free .. => none

namespace FileTree

/-! ### Where paths lead -/

/-- The location that a walk ends at, and whether there is a directory. -/
def reached : Except DiskFault Place → Option (Location × Bool)
  | .ok place => some (place.location, place.node? = some .directory)
  | .error _ => none

/-- The location that a path leads to, whether or not something is there. -/
def entryOf? (t : FileTree) (p : Path) : Option Location := (reached (t.resolve p)).map Prod.fst

/-- A path leads to a directory if its walk ends in one. -/
theorem isDirectory_eq (t : FileTree) (p : Path) :
    t.isDirectory p = (reached (t.resolve p)).any Prod.snd := by
  unfold isDirectory find?
  rcases t.resolve p with e | ⟨l, content | -⟩ | ⟨directory, name⟩
  · rfl
  · simp only [reached]
    split <;> simp
  · simp [reached]
  · rfl

/-- One step of a walk: it goes on in a directory, and ends at any other name. -/
theorem reached_walk_cons (t : FileTree) (location : Location) (name : Bytes)
    (rest : List Bytes) :
    reached (t.walk location (name :: rest)) =
      if name = [Path.dot] then reached (t.walk location rest)
      else if name = [Path.dot, Path.dot] then reached (t.walk location.dropLast rest)
      else if maxNameBytes < name.length then none
      else if t.node? (location ++ [name]) = some .directory then
        reached (t.walk (location ++ [name]) rest)
      else if rest = [] then some (location ++ [name], false) else none := by
  rw [walk]
  repeat' split
  all_goals simp_all [reached]

/-- A walk depends on what is a directory, not on the files. -/
theorem reached_walk_congr {t t' : FileTree}
    (h : ∀ l, t'.node? l = some .directory ↔ t.node? l = some .directory) (location : Location)
    (names : List Bytes) : reached (t'.walk location names) = reached (t.walk location names) := by
  induction names generalizing location with
  | nil => rfl
  | cons name rest ih =>
    simp only [reached_walk_cons, ih, h]

/-- Where a path leads depends on what is a directory, not on the files. -/
theorem reached_resolve_congr {t t' : FileTree} (hcurrent : t'.current = t.current)
    (h : ∀ l, t'.node? l = some .directory ↔ t.node? l = some .directory) (p : Path) :
    reached (t'.resolve p) = reached (t.resolve p) := by
  unfold resolve
  rw [hcurrent]
  split
  · rfl
  · split
    · rfl
    · split
      · rfl
      · exact reached_walk_congr h _ _

/-- A walk that gets somewhere goes on where its first name leads, whatever names follow, or ends at
    that name, where there is no directory. -/
theorem walk_cons_cases {t : FileTree} {location : Location} {name : Bytes} {rest : List Bytes}
    {place : Place} (h : t.walk location (name :: rest) = .ok place) :
    (∃ next, t.walk next rest = .ok place ∧
        ∀ names, t.walk location (name :: names) = t.walk next names) ∨
      (rest = [] ∧ name ≠ [Path.dot] ∧ place.location = location ++ [name] ∧
        t.node? place.location = place.node? ∧ place.node? ≠ some .directory) := by
  by_cases hdot : name = [Path.dot]
  · have hsame : ∀ names, t.walk location (name :: names) = t.walk location names := by
      simp [walk, hdot]
    exact .inl ⟨location, hsame rest ▸ h, hsame⟩
  by_cases hdots : name = [Path.dot, Path.dot]
  · have hsame : ∀ names, t.walk location (name :: names) = t.walk location.dropLast names := by
      simp [walk, hdots]
    exact .inl ⟨location.dropLast, hsame rest ▸ h, hsame⟩
  rw [walk, if_neg hdot, if_neg hdots] at h
  split at h
  · cases h
  next hlong =>
  -- the name is one of an entry, and what is there decides
  split at h
  · next hnode =>
    exact .inl ⟨location ++ [name], h, by simp [walk, hdot, hdots, hlong, hnode]⟩
  · next hnode =>
    split at h
    · next hrest =>
      cases h
      exact .inr ⟨hrest, hdot, rfl, hnode, by simp⟩
    · cases h
  · next hnode =>
    split at h
    · next hrest =>
      cases h
      exact .inr ⟨hrest, hdot, rfl, hnode, by simp⟩
    · cases h

/-- A walk that does not end in a directory ends with the last of its names, and finds what the tree
    has there. -/
theorem walk_ok {t : FileTree} {location : Location} {names : List Bytes} {place : Place}
    (h : t.walk location names = .ok place) (hplace : place.node? ≠ some .directory) :
    place.location.getLast? = names.getLast? ∧ t.node? place.location = place.node? := by
  induction names generalizing location with
  | nil =>
    cases h
    exact absurd rfl hplace
  | cons name rest ih =>
    obtain ⟨next, hnext, -⟩ | ⟨rfl, -, hlocation, hnode, -⟩ := walk_cons_cases h
    · -- a walk that goes on has names left, as it would have ended in a directory
      cases rest with
      | nil =>
        cases hnext
        exact absurd rfl hplace
      | cons => exact ih hnext
    · rw [hlocation] at hnode ⊢
      exact ⟨List.getLast?_concat, hnode⟩

/-- The names of a path that does not end with a slash end with what stands behind the last one. -/
theorem getLast?_segments {p : Path} (h : namesDirectory p = false) (hne : p.bytes ≠ []) :
    (p.segments.filter fun seg => seg ≠ []).getLast? = some (Path.endOf p.bytes) := by
  have hend : Path.endOf p.bytes ≠ [] := by
    intro hnil
    rcases Path.endOf_cases p.bytes with hslash | ⟨-, before, hbytes⟩
    · exact hne (by rw [← Path.endOf_of_not_mem hslash, hnil])
    · rw [hnil] at hbytes
      simp [namesDirectory, hbytes] at h
  obtain ⟨segs, hsegs⟩ := List.getLast?_eq_some_iff.1 (Path.getLast?_split p.bytes)
  simp [Path.segments, hsegs, hend]

/-- A path that does not lead to a directory leads to what the tree has there, under the name at its
    end unless that is a slash. -/
theorem resolve_ok {t : FileTree} {p : Path} {place : Place} (h : t.resolve p = .ok place)
    (hplace : place.node? ≠ some .directory) :
    t.node? place.location = place.node? ∧
      (namesDirectory p = false → place.location.getLast? = some (Path.endOf p.bytes)) := by
  unfold resolve at h
  split at h
  · cases h
  · split at h
    · cases h
    · next hne =>
      split at h
      · cases h
      · obtain ⟨hlast, hnode⟩ := walk_ok h hplace
        exact ⟨hnode, fun hslash => hlast.trans (getLast?_segments hslash hne)⟩

/-! ### Operations -/

/-- A temporary file is made at a free entry. -/
theorem createTemporary_ok {t t' : FileTree} {p : Path} {l : Location}
    (h : t.createTemporary p = .ok (l, t')) :
    l ≠ [] ∧ t.node? l = none ∧ t' = t.put l (.file []) := by
  rw [createTemporary] at h
  obtain ⟨place, hresolve, hmade⟩ := exists_of_bind_eq_ok h
  cases place with
  | taken => cases hmade
  | free directory name =>
    cases hmade
    exact ⟨by simp, (resolve_ok hresolve (by simp)).1, rfl⟩

/-- Nothing is at the root but a directory. -/
theorem ne_nil_of_node? {t : FileTree} {l : Location} (h : t.node? l ≠ some .directory) :
    l ≠ [] := by
  rintro rfl
  exact h rfl

/-- A new file is at its location, and nothing else has changed. -/
theorem node?_put_eq_update {t : FileTree} {l : Location} (h : t.node? l ≠ some .directory)
    (content : Bytes) :
    (t.put l (.file content)).node? = Function.update t.node? l (some (.file content)) := by
  funext other
  rw [node?_put t (ne_nil_of_node? h), Function.update_apply]

/-- Nothing is left at a location that is erased, and nothing else has changed. -/
theorem node?_erase_eq_update {t : FileTree} {l : Location} (h : t.node? l ≠ some .directory) :
    (t.erase l).node? = Function.update t.node? l none := by
  funext other
  rw [node?_erase t (ne_nil_of_node? h), Function.update_apply]

/-- Whether paths lead where they did, to the same directories. -/
def SameWays (t t' : FileTree) : Prop := ∀ p, reached (t'.resolve p) = reached (t.resolve p)

/-- A file that comes, changes or goes is in nobody's way. -/
theorem sameWays_of_update {t t' : FileTree} {l : Location} {node : Option Node}
    (hcurrent : t'.current = t.current) (hnodes : t'.node? = Function.update t.node? l node)
    (h : t.node? l ≠ some .directory) (hnode : node ≠ some .directory) : SameWays t t' := by
  -- it was no directory before and is none after, so the directories are the same
  refine fun p => reached_resolve_congr hcurrent (fun other => ?_) p
  rw [hnodes]
  by_cases ho : other = l
  · subst ho
    simp [h, hnode]
  · rw [Function.update_of_ne ho]

/-- A file takes the place of a path only where there is no directory. -/
theorem exists_place_of_replace {t t' : FileTree} {p : Path} {content : Bytes}
    (h : t.replace p content = .ok t') :
    ∃ place, t.resolve p = .ok place ∧ place.node? ≠ some .directory ∧
      namesDirectory p = false ∧ t' = t.put place.location (.file content) := by
  rw [replace] at h
  obtain ⟨place, hresolve, hput⟩ := exists_of_bind_eq_ok h
  refine ⟨place, hresolve, ?_⟩
  by_cases hslash : namesDirectory p = true
  · rcases place with ⟨l, old | -⟩ | ⟨directory, name⟩ <;> simp [hslash] at hput
  · rcases place with ⟨l, old | -⟩ | ⟨directory, name⟩ <;> simp [hslash] at hput
    · exact ⟨by simp, by simpa using hslash, hput.symm⟩
    · exact ⟨by simp, by simpa using hslash, hput.symm⟩

/-- A file that takes the place of a path replaces what is at its entry, which is no directory. -/
theorem replace_ok {t t' : FileTree} {p : Path} {content : Bytes}
    (h : t.replace p content = .ok t') :
    ∃ e, t.entryOf? p = some e ∧ e.getLast? = some (Path.endOf p.bytes) ∧
      t.node? e ≠ some .directory ∧ t' = t.put e (.file content) := by
  obtain ⟨place, hresolve, hplace, hslash, rfl⟩ := exists_place_of_replace h
  obtain ⟨hnode, hname⟩ := resolve_ok hresolve hplace
  refine ⟨place.location, ?_, hname hslash, by rwa [hnode], rfl⟩
  rw [entryOf?, hresolve]
  rfl

/-- A temporary file that takes the place of a path is gone from where it was. -/
theorem commit_ok {t t' : FileTree} {l : Location} {p : Path} {content : Bytes}
    (hfile : t.node? l = some (.file content)) (h : t.commit l p = .ok t') :
    ∃ e, t.entryOf? p = some e ∧ e.getLast? = some (Path.endOf p.bytes) ∧
      t'.node? = Function.update (Function.update t.node? l none) e (some (.file content)) ∧
      SameWays t t' := by
  have hl : t.node? l ≠ some .directory := by simp [hfile]
  have herase := node?_erase_eq_update hl
  have hways : SameWays t (t.erase l) := sameWays_of_update rfl herase hl (by simp)
  -- the temporary file goes first, and then takes the place of the path
  rw [commit, hfile] at h
  obtain ⟨e, hentry, hname, hnode, rfl⟩ := replace_ok h
  have hput := node?_put_eq_update hnode content
  refine ⟨e, ?_, hname, by rw [hput, herase], fun q => ?_⟩
  · rw [← hentry, entryOf?, entryOf?, hways p]
  · have hreplaced : SameWays (t.erase l) ((t.erase l).put e (.file content)) :=
      sameWays_of_update rfl hput hnode (by simp)
    exact (hreplaced q).trans (hways q)

end FileTree

/-! ### Worlds -/

namespace World

instance : DiskView World where
  Entry := Location
  nameOf l := l.getLastD []
  target? w p := w.disk.entryOf? p
  isDirectory w p := w.disk.isDirectory p
  node? w := w.disk.node?
  temporary staged := staged
  errors w := w.errors

/-- What changes one file and no way becomes that change. -/
theorem becomes {w : World} {t : FileTree} {nodes : Location → Option Node}
    (hnodes : t.node? = nodes) (hways : w.disk.SameWays t) :
    Becomes w { w with disk := t } nodes where
  nodes := hnodes
  entries := by
    funext p
    show t.entryOf? p = w.disk.entryOf? p
    rw [FileTree.entryOf?, FileTree.entryOf?, hways p]
  directories := by
    funext p
    show t.isDirectory p = w.disk.isDirectory p
    rw [FileTree.isDirectory_eq, FileTree.isDirectory_eq, hways p]
  errors := rfl

/-- Nothing changes if the tree does not. -/
theorem becomes_self (w : World) : Becomes w w (DiskView.node? w) :=
  becomes rfl fun _ => rfl

/-- A file that comes or changes is all that changes. -/
theorem becomes_put {w : World} {l : Location} (h : w.disk.node? l ≠ some .directory)
    (content : Bytes) :
    Becomes w { w with disk := w.disk.put l (.file content) }
      (Function.update w.disk.node? l (some (.file content))) :=
  have hput := FileTree.node?_put_eq_update h content
  becomes hput (FileTree.sameWays_of_update rfl hput h (by simp))

/-- A file that goes is all that changes. -/
theorem becomes_erase {w : World} {l : Location} (h : w.disk.node? l ≠ some .directory) :
    Becomes w { w with disk := w.disk.erase l } (Function.update w.disk.node? l none) :=
  have herase := FileTree.node?_erase_eq_update h
  becomes herase (FileTree.sameWays_of_update rfl herase h (by simp))

/-- A temporary file is no directory. -/
theorem ne_directory_of_isStaged {w : World} {l : Location} (h : IsStaged (σ := World) w l) :
    w.disk.node? l ≠ some .directory := by
  obtain ⟨content, hcontent⟩ := h
  have hfile : w.disk.node? l = some (.file content) := hcontent
  simp [hfile]

/-- A temporary file is made as in the tree. -/
theorem run_createTemporary (p : Path) (w : World) :
    (Disk.createTemporary (m := StateM World) p).run w =
      match w.disk.createTemporary p with
      | .ok (l, t) => (.ok l, { w with disk := t })
      | .error e => (.error (e, w.disk.temporaryPath p), w) := by
  show (let (a, disk) := (match w.disk.createTemporary p with
    | .ok (staged, t') => (Except.ok staged, t')
    | .error e => (.error (e, w.disk.temporaryPath p), w.disk)); (a, { w with disk })) = _
  cases w.disk.createTemporary p <;> rfl

/-- A temporary file takes its place as in the tree. -/
theorem run_commit (l : Location) (p : Path) (w : World) :
    (Disk.commit (m := StateM World) l p).run w =
      match w.disk.commit l p with
      | .ok t => (.ok (), { w with disk := t })
      | .error e => (.error e, w) := by
  show (let (a, disk) := (match w.disk.commit l p with
    | .ok t' => (Except.ok (), t')
    | .error e => (.error e, w.disk)); (a, { w with disk })) = _
  cases w.disk.commit l p <;> rfl

instance : LawfulDisk World where
  isDirectory_run p w := rfl
  createTemporary_error := by
    intro p w w' e h
    rw [run_createTemporary] at h
    split at h <;> cases h
    exact becomes_self w
  createTemporary_ok := by
    intro p w w' l h
    rw [run_createTemporary] at h
    split at h
    · next l t hmade =>
      cases h
      obtain ⟨-, hfree, rfl⟩ := FileTree.createTemporary_ok hmade
      exact ⟨hfree, becomes_put (by simp [hfree]) []⟩
    · cases h
  setMode := by
    intro l w w' r h
    cases h
    exact becomes_self w
  fill_error := by
    intro l content w w' e hstaged h
    cases h
  fill_ok := by
    intro l content w w' hstaged h
    cases h
    exact becomes_put (ne_directory_of_isStaged hstaged) content
  discard := by
    intro l w w' hstaged h
    cases h
    exact becomes_erase (ne_directory_of_isStaged hstaged)
  commit_error := by
    intro l p w w' e hstaged h
    rw [run_commit] at h
    split at h <;> cases h
    exact becomes_self w
  commit_ok := by
    intro l p w w' hstaged h
    rw [run_commit] at h
    split at h
    · next t hcommit =>
      cases h
      obtain ⟨content, hcontent⟩ := hstaged
      obtain ⟨e, hentry, hname, hnodes, hways⟩ := FileTree.commit_ok hcontent hcommit
      refine ⟨e, hentry, ?_, becomes ?_ hways⟩
      · show e.getLastD [] = _
        rw [List.getLastD_eq_getLast?, hname, Option.getD_some]
      · rw [hcontent]
        exact hnodes
    · cases h
  printError := by
    intro text w w' h
    cases h
    exact ⟨rfl, rfl, rfl, rfl⟩

end World

end SovdConfig
