import SovdConfig.Proofs.Disk.Current

namespace SovdConfig

/-!
# The directory of a file

Where there is a file there is the directory that it is in.  Main statements:

* `Path.parent?_cases` — the parent of a path is what stands before the name at its end;
* `FileTree.isDirectory_parent` — the parent of a path that leads somewhere is a directory;
* `FileTree.createDirectories_of_isDirectory` — a directory that is there is left alone.
-/

namespace Path

/-- Segments put together in two parts have a slash between the parts. -/
theorem intercalate_append {first second : List Bytes} (hfirst : first ≠ [])
    (hsecond : second ≠ []) : [slash].intercalate (first ++ second) =
      [slash].intercalate first ++ slash :: [slash].intercalate second := by
  induction first with
  | nil => exact absurd rfl hfirst
  | cons seg rest ih =>
    rcases rest with - | ⟨next, rest⟩
    · obtain ⟨seg', segs, rfl⟩ := List.exists_cons_of_ne_nil hsecond
      simp
    · simp only [List.cons_append] at ih ⊢
      simp [ih]

/-- Up to the last segment that counts there is at least one segment. -/
theorem lastCounting?_bounds {segs : List Bytes} {kept : Nat} (h : lastCounting? segs = some kept) :
    0 < kept ∧ kept ≤ segs.length := by
  rcases segs with - | ⟨seg, segs⟩
  · cases h
  · simp only [lastCounting?, List.length_cons] at h ⊢
    split at h
    · cases h
      omega
    · obtain ⟨-, hone⟩ := Option.ite_none_right_eq_some.1 h
      cases hone
      omega

/-- The parent of a path that ends with a name is what stands before that name: nothing, the root,
    or a path that a slash follows. -/
theorem parent?_cases {p parent : Path} (hend : isIdle (endOf p.bytes) = false)
    (h : p.parent? = some parent) :
    parent.bytes = [] ∨ parent.bytes = [slash] ∨
      ∃ rest, p.bytes = parent.bytes ++ slash :: rest := by
  obtain ⟨segs, hsegs⟩ := List.getLast?_eq_some_iff.1 (getLast?_split p.bytes)
  have hcount : lastCounting? p.segments = some (segs.length + 1) := by
    simp [lastCounting?, segments, hsegs, hend]
  rw [parent?, hcount, Option.map_some, Nat.add_sub_cancel] at h
  obtain rfl := Option.some.inj h
  have htake : p.segments.take segs.length = segs := by simp [segments, hsegs]
  rw [keep, htake]
  rcases hkept : lastCounting? segs with - | kept
  · dsimp only
    split
    · exact .inr (.inl rfl)
    · exact .inl rfl
  · obtain ⟨hpositive, hbound⟩ := lastCounting?_bounds hkept
    have hparts : split p.bytes = segs.take kept ++ (segs.drop kept ++ [endOf p.bytes]) := by
      rw [← List.append_assoc, List.take_append_drop, hsegs]
    refine .inr (.inr ⟨[slash].intercalate (segs.drop kept ++ [endOf p.bytes]), ?_⟩)
    dsimp only [ofSegments]
    rw [← intercalate_append _ (by simp), ← hparts, intercalate_split]
    intro hnil
    rcases List.take_eq_nil_iff.1 hnil with hzero | hempty
    · omega
    · simp [hempty] at hbound
      omega

end Path

namespace FileTree

variable {t : FileTree} {p parent : Path} {place : Place}

/-- A walk that goes on goes on from a directory. -/
theorem exists_directory_of_walk_append {location : Location} {names more : List Bytes}
    (h : t.walk location (names ++ more) = .ok place) (hmore : more ≠ []) :
    ∃ directory, t.walk location names = .ok (.taken directory .directory) := by
  induction names generalizing location with
  | nil => exact ⟨location, rfl⟩
  | cons name rest ih =>
    rw [List.cons_append] at h
    obtain ⟨next, hnext, hsame⟩ | ⟨hnone, -⟩ := walk_cons_cases h
    · rw [hsame]
      exact ih hnext
    · -- there are names left after this one, so it does not end the walk
      exact absurd (List.append_eq_nil_iff.1 hnone).2 hmore

/-- A path leads to a directory if it is one. -/
theorem isDirectory_iff :
    t.isDirectory p = true ↔ ∃ l, t.resolve p = .ok (.taken l .directory) := by
  unfold isDirectory find?
  rcases t.resolve p with e | ⟨l, content | -⟩ | ⟨directory, name⟩
  · simp
  · by_cases hslash : namesDirectory p = true <;> simp [hslash]
  · simp
  · simp

/-- What stands before a slash in a path that leads somewhere leads to a directory, if a name
    follows. -/
theorem isDirectory_of_append_slash {rest : Bytes} (h : t.resolve p = .ok place)
    (hparts : p.bytes = parent.bytes ++ Path.slash :: rest) (hne : parent.bytes ≠ [])
    (hend : Path.isIdle (Path.endOf p.bytes) = false) : t.isDirectory parent = true := by
  obtain ⟨⟨hzero, hlength⟩, hp⟩ := isTaken_of_resolve h
  have htaken : parent.IsTaken := by
    rw [hparts, List.mem_append, not_or] at hzero
    rw [hparts, List.length_append] at hlength
    exact ⟨hzero.1, by omega⟩
  have hstart : p.isAbsolute = parent.isAbsolute := by
    obtain ⟨b, bytes, hbytes⟩ := List.exists_cons_of_ne_nil hne
    simp [Path.isAbsolute, hparts, hbytes]
  have hsegments : p.segments = parent.segments ++ Path.split rest := by
    rw [Path.segments, hparts, Path.split_append_slash, Path.segments]
  have hmore : ((Path.split rest).filter fun seg => seg ≠ []) ≠ [] := by
    -- the last segment of the path is one of them, and is a name
    have hlast : Path.endOf p.bytes ∈ Path.split rest := by
      rw [hparts, Path.endOf, Path.split_append_slash, List.getLastD_eq_getLast?,
        List.getLast?_append, Path.getLast?_split, Option.some_or, Option.getD_some]
      exact List.mem_of_getLast? (Path.getLast?_split rest)
    have hname : Path.endOf p.bytes ≠ [] := by
      intro hnil
      simp [hnil, Path.isIdle] at hend
    exact List.ne_nil_of_mem (List.mem_filter.2 ⟨hlast, by simpa using hname⟩)
  rw [resolve_of_isTaken ⟨hzero, hlength⟩ hp, hstart, hsegments, List.filter_append] at h
  obtain ⟨directory, hwalk⟩ := exists_directory_of_walk_append h hmore
  exact isDirectory_iff.2 ⟨directory, (resolve_of_isTaken htaken hne).trans hwalk⟩

/-- The parent of a path is empty or leads to a directory, if the path leads to a file or to a free
    name in a directory. -/
theorem isDirectory_parent (h : t.resolve p = .ok place) (hplace : place.node? ≠ some .directory)
    (hslash : namesDirectory p = false) (hparent : p.parent? = some parent) :
    parent.isEmpty = true ∨ t.isDirectory parent = true := by
  have hend := isIdle_endOf_eq_false h hplace hslash
  by_cases hempty : parent.bytes = []
  · exact .inl (by simp [Path.isEmpty, hempty])
  · refine .inr ?_
    rcases Path.parent?_cases hend hparent with hnil | hroot | ⟨rest, hparts⟩
    · exact absurd hnil hempty
    · obtain ⟨bytes⟩ := parent
      obtain rfl : bytes = [Path.slash] := hroot
      exact isDirectory_iff.2 ⟨[], rfl⟩
    · exact isDirectory_of_append_slash h hparts hempty hend

/-- Directories that are there are left alone when they are to be made. -/
theorem createDirectories_of_isDirectory (h : p.isEmpty = true ∨ t.isDirectory p = true) :
    t.createDirectories p = (t, .ok ()) := by
  rw [createDirectories, createWithParents]
  by_cases hempty : p.isEmpty = true
  · rw [if_pos hempty]
  · have hdirectory := h.resolve_left hempty
    obtain ⟨l, hresolve⟩ := isDirectory_iff.1 hdirectory
    have hmade : t.createDirectory p = .error .alreadyExists := by
      rw [createDirectory, hresolve]
      rfl
    rw [if_neg hempty, hmade]
    simp [hdirectory]

end FileTree

end SovdConfig
