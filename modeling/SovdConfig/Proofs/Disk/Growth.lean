import SovdConfig.Proofs.Disk.Tree

namespace SovdConfig

/-!
# Directories that come

Making a directory and those above it that are missing.  Main definitions:

* `Path.AtOrAbove` — a path, its parent, the parent of that, and so on;
* `FileTree.Grows` — a tree that has gained directories and is the same otherwise.

Main statements:

* `FileTree.Grows.entryOf?` — where a path led it leads when directories have come;
* `FileTree.grows_createDirectories` — making directories is growth;
* `FileTree.new_of_createDirectories` — what comes is on the way to the path.

A path that led nowhere may lead to something when directories have come, also to something that was
there all along: `new/../old` leads to `old` once there is `new`.
-/

/-- A path is at or above another one if it is reached by taking parents. -/
inductive Path.AtOrAbove : Path → Path → Prop
  | self (p : Path) : AtOrAbove p p
  | above {p parent q : Path} : p.parent? = some parent → AtOrAbove q parent → AtOrAbove q p

namespace FileTree

/-- A tree that has gained directories and is the same otherwise. -/
structure Grows (t t' : FileTree) : Prop where
  current : t'.current = t.current
  kept : ∀ l node, t.node? l = some node → t'.node? l = some node
  made : ∀ l, t.node? l = none → t'.node? l = none ∨ t'.node? l = some .directory

/-! ### Ways -/

namespace Grows

variable {t t' t'' : FileTree}

/-- A tree that stays as it is. -/
theorem refl (t : FileTree) : Grows t t := ⟨rfl, fun _ _ h => h, fun _ h => .inl h⟩

/-- Growth after growth. -/
theorem trans (h : Grows t t') (h' : Grows t' t'') : Grows t t'' where
  current := h'.current.trans h.current
  kept l node hnode := h'.kept l node (h.kept l node hnode)
  made l hfree := by
    rcases h.made l hfree with hstill | hnew
    · exact h'.made l hstill
    · exact .inr (h'.kept l _ hnew)

/-- What differs was free and is a directory. -/
theorem of_ne (h : Grows t t') {l : Location} (hne : t'.node? l ≠ t.node? l) :
    t.node? l = none ∧ t'.node? l = some .directory := by
  cases hnode : t.node? l with
  | some node => exact absurd ((h.kept l node hnode).trans hnode.symm) hne
  | none => exact ⟨rfl, (h.made l hnode).resolve_left (by rwa [hnode] at hne)⟩

/-- A walk that got somewhere still gets there, to a directory if there was one. -/
theorem reached_walk (h : Grows t t') {location l : Location} {names : List Bytes} {b : Bool}
    (hreached : reached (t.walk location names) = some (l, b)) :
    ∃ b', reached (t'.walk location names) = some (l, b') ∧ (b = true → b' = true) := by
  induction names generalizing location with
  | nil => exact ⟨b, hreached, id⟩
  | cons name rest ih =>
    rw [reached_walk_cons] at hreached ⊢
    by_cases hdot : name = [Path.dot]
    · rw [if_pos hdot] at hreached ⊢
      exact ih hreached
    rw [if_neg hdot] at hreached ⊢
    by_cases hdots : name = [Path.dot, Path.dot]
    · rw [if_pos hdots] at hreached ⊢
      exact ih hreached
    rw [if_neg hdots] at hreached ⊢
    by_cases hlong : maxNameBytes < name.length
    · rw [if_pos hlong] at hreached
      cases hreached
    rw [if_neg hlong] at hreached ⊢
    by_cases hdirectory : t.node? (location ++ [name]) = some .directory
    -- a directory that was there has been kept, so the walk goes on through it
    · rw [if_pos hdirectory] at hreached
      rw [if_pos (h.kept _ _ hdirectory)]
      exact ih hreached
    rw [if_neg hdirectory] at hreached
    by_cases hrest : rest = []
    · -- the walk ends here, also if a directory has come to the place
      rw [if_pos hrest] at hreached ⊢
      cases hreached
      rw [hrest]
      split
      · exact ⟨true, rfl, fun _ => rfl⟩
      · exact ⟨false, rfl, id⟩
    · rw [if_neg hrest] at hreached
      cases hreached

/-- Where a path led it leads when directories have come. -/
theorem entryOf? (h : Grows t t') {p : Path} {l : Location} (hentry : t.entryOf? p = some l) :
    t'.entryOf? p = some l := by
  simp only [FileTree.entryOf?, Option.map_eq_some_iff, Prod.exists, exists_and_right,
    exists_eq_right] at hentry ⊢
  obtain ⟨b, hreached⟩ := hentry
  unfold resolve at hreached ⊢
  rw [h.current]
  split at hreached
  · cases hreached
  · split at hreached
    · cases hreached
    · next hzero hempty =>
      rw [if_neg hzero, if_neg hempty]
      split at hreached
      · cases hreached
      · next hlong =>
        rw [if_neg hlong]
        obtain ⟨b', hreached', -⟩ := h.reached_walk hreached
        exact ⟨b', hreached'⟩

end Grows

/-! ### Making directories -/

/-- A new directory is made at a free entry, to which the path leads. -/
theorem createDirectory_ok {t t' : FileTree} {p : Path} (h : t.createDirectory p = .ok t') :
    Grows t t' ∧ ∀ l, t'.node? l ≠ t.node? l → t'.entryOf? p = some l := by
  rw [createDirectory] at h
  obtain ⟨place, hresolve, hmade⟩ := exists_of_bind_eq_ok h
  cases place with
  | taken => cases hmade
  | free directory name =>
    cases hmade
    have hfree : t.node? (directory ++ [name]) = none := (resolve_ok hresolve (by simp)).1
    have hnode := node?_put t (List.append_ne_nil_of_right_ne_nil directory
      (List.cons_ne_nil name [])) Node.directory
    -- nothing was at the place of the new directory, so all that was there is kept
    have hgrows : Grows t (t.put (directory ++ [name]) .directory) := by
      refine ⟨rfl, fun l node hl => ?_, fun l hl => ?_⟩
      · rw [hnode, if_neg (by rintro rfl; simp [hfree] at hl), hl]
      · rw [hnode]
        split
        · exact .inr rfl
        · exact .inl hl
    refine ⟨hgrows, fun l hl => ?_⟩
    have hplace : l = directory ++ [name] := by
      by_contra hne
      rw [hnode, if_neg hne] at hl
      exact hl rfl
    rw [hplace]
    refine hgrows.entryOf? ?_
    rw [entryOf?, hresolve]
    rfl

/-- Making a directory and those above it is growth, and what comes is on the way. -/
theorem createWithParents_grows (fuel : Nat) (t : FileTree) (p : Path) :
    Grows t (createWithParents fuel t p).1 ∧
      ∀ l, (createWithParents fuel t p).1.node? l ≠ t.node? l →
        ∃ q, Path.AtOrAbove q p ∧ (createWithParents fuel t p).1.entryOf? q = some l := by
  induction fuel generalizing t p with
  | zero => exact ⟨.refl t, fun l hl => absurd rfl hl⟩
  | succ fuel ih =>
    rw [createWithParents]
    split
    · exact ⟨.refl t, fun l hl => absurd rfl hl⟩
    · split
      · next t' hmade =>
        obtain ⟨hgrows, hnew⟩ := createDirectory_ok hmade
        exact ⟨hgrows, fun l hl => ⟨p, .self p, hnew l hl⟩⟩
      · split
        · exact ⟨.refl t, fun l hl => absurd rfl hl⟩
        · next parent hparent =>
          -- the parents come first, and then the directory itself
          obtain ⟨hgrows, hnew⟩ := ih t parent
          have habove : ∀ l, (createWithParents fuel t parent).1.node? l ≠ t.node? l →
              ∃ q, Path.AtOrAbove q p ∧
                (createWithParents fuel t parent).1.entryOf? q = some l := by
            intro l hl
            obtain ⟨q, hq, hentry⟩ := hnew l hl
            exact ⟨q, .above hparent hq, hentry⟩
          split
          · next t' e hfailed =>
            rw [hfailed] at hgrows habove
            exact ⟨hgrows, habove⟩
          · next t' hdone =>
            rw [hdone] at hgrows habove
            split
            · next t'' hmade =>
              obtain ⟨hgrows', hnew'⟩ := createDirectory_ok hmade
              refine ⟨hgrows.trans hgrows', fun l hl => ?_⟩
              by_cases hl' : t''.node? l = t'.node? l
              · obtain ⟨q, hq, hentry⟩ := habove l (hl' ▸ hl)
                exact ⟨q, hq, hgrows'.entryOf? hentry⟩
              · exact ⟨p, .self p, hnew' l hl'⟩
            · exact ⟨hgrows, habove⟩
      · exact ⟨.refl t, fun l hl => absurd rfl hl⟩

/-- Making a directory and those above it is growth. -/
theorem grows_createDirectories (t : FileTree) (p : Path) : Grows t (t.createDirectories p).1 :=
  (createWithParents_grows (p.bytes.length + 1) t p).1

/-- What comes when a directory is made is on the way to it. -/
theorem new_of_createDirectories {t : FileTree} {p : Path} {l : Location}
    (h : (t.createDirectories p).1.node? l ≠ t.node? l) :
    ∃ q, Path.AtOrAbove q p ∧ (t.createDirectories p).1.entryOf? q = some l :=
  (createWithParents_grows (p.bytes.length + 1) t p).2 l h

/-! ### Attempts -/

/-- A change that can be made is made. -/
theorem run_attempt_ok {f : FileTree → Except DiskFault FileTree} {t t' : FileTree}
    (h : f t = .ok t') : (attempt f).run t = (.ok (), t') := by
  show attempt f t = _
  rw [attempt, h]

/-- Nothing changes when one cannot be made. -/
theorem run_attempt_error {f : FileTree → Except DiskFault FileTree} {t : FileTree}
    {e : DiskFault} (h : f t = .error e) : (attempt f).run t = (.error e, t) := by
  show attempt f t = _
  rw [attempt, h]

/-! ### Opening files -/

/-- A file is opened for writing only where there is no directory. -/
theorem exists_place_of_openForWriting {t : FileTree} {p : Path} {l : Location} {content : Bytes}
    (h : t.openForWriting p = .ok (l, content)) :
    ∃ place, t.resolve p = .ok place ∧ place.node? ≠ some .directory ∧
      namesDirectory p = false ∧ place.location = l := by
  rw [openForWriting] at h
  obtain ⟨place, hresolve, hopen⟩ := exists_of_bind_eq_ok h
  refine ⟨place, hresolve, ?_⟩
  by_cases hslash : namesDirectory p = true
  · rcases place with ⟨l', old | -⟩ | ⟨directory, name⟩ <;> simp [hslash] at hopen
  · rcases place with ⟨l', old | -⟩ | ⟨directory, name⟩ <;> simp [hslash] at hopen
    · exact ⟨by simp, by simpa using hslash, hopen.1⟩
    · exact ⟨by simp, by simpa using hslash, hopen.1⟩

/-- A file that is opened for writing is at the entry of its path, where there is no directory. -/
theorem openForWriting_ok {t : FileTree} {p : Path} {l : Location} {content : Bytes}
    (h : t.openForWriting p = .ok (l, content)) :
    t.entryOf? p = some l ∧ t.node? l ≠ some .directory ∧ namesDirectory p = false := by
  obtain ⟨place, hresolve, hplace, hslash, rfl⟩ := exists_place_of_openForWriting h
  refine ⟨?_, by rwa [(resolve_ok hresolve hplace).1], hslash⟩
  rw [entryOf?, hresolve]
  rfl

/-- A file that is written is put where it is opened. -/
theorem exists_put_of_write {t t' : FileTree} {p : Path} {content : Bytes}
    (h : t.write p content = .ok t') :
    ∃ l old, t.openForWriting p = .ok (l, old) ∧ t' = t.put l (.file content) := by
  rw [write] at h
  obtain ⟨⟨l, old⟩, hopen, hput⟩ := exists_of_bind_eq_ok h
  cases hput
  exact ⟨l, old, hopen, rfl⟩

/-- So is one that is written on. -/
theorem exists_put_of_appendTo {t t' : FileTree} {p : Path} {more : Bytes}
    (h : t.appendTo p more = .ok t') :
    ∃ l old, t.openForWriting p = .ok (l, old) ∧ t' = t.put l (.file (old ++ more)) := by
  rw [appendTo] at h
  obtain ⟨⟨l, old⟩, hopen, hput⟩ := exists_of_bind_eq_ok h
  cases hput
  exact ⟨l, old, hopen, rfl⟩

end FileTree

end SovdConfig
