import SovdConfig.Proofs.Disk.Growth

namespace SovdConfig

/-!
# The current directory

A path leads where the longer path does that starts with the path of the current directory.  Main
definitions:

* `FileTree.HasCurrent` — whether the names of the current directory lead to it;
* `Path.IsTaken` — whether a path is one that the system takes at all.

Main statements:

* `FileTree.resolve_join` — the longer path leads to the same, if it is not too long;
* `FileTree.resolve_put` — a file that has been written is what its path leads to;
* `Path.extendName?_bytes` — a path whose name is extended is longer.
-/

namespace Path

/-- Whether a path is one that the system takes: it has no zero byte and is not too long. -/
def IsTaken (p : Path) : Prop := 0 ∉ p.bytes ∧ p.bytes.length ≤ FileTree.maxPathBytes

/-- A path that starts with one that is not taken is not taken. -/
theorem not_isTaken_append {p : Path} (h : ¬ p.IsTaken) (more : Bytes) :
    ¬ (⟨p.bytes ++ more⟩ : Path).IsTaken := by
  rintro ⟨hzero, hlength⟩
  rw [List.mem_append, not_or] at hzero
  rw [List.length_append] at hlength
  exact h ⟨hzero.1, by omega⟩

/-- A path is taken if one is that it is joined to. -/
theorem isTaken_of_join {p q : Path} (h : (p.join q).IsTaken) : q.IsTaken := by
  obtain ⟨before, hbefore⟩ : q.bytes <:+ (p.join q).bytes := by
    unfold join
    split
    · exact List.suffix_rfl
    · split
      · exact List.suffix_append _ _
      · exact (List.suffix_cons _ _).trans (List.suffix_append _ _)
  obtain ⟨hzero, hlength⟩ := h
  rw [← hbefore, List.mem_append, not_or] at hzero
  rw [← hbefore, List.length_append] at hlength
  exact ⟨hzero.2, by omega⟩

/-- The segments between slashes are all of a path. -/
theorem intercalate_split (bytes : Bytes) : [slash].intercalate (split bytes) = bytes := by
  induction bytes with
  | nil => rfl
  | cons b rest ih =>
    obtain ⟨seg, segs, hsegs⟩ := List.exists_cons_of_ne_nil (split_ne_nil rest)
    rw [hsegs] at ih
    by_cases hb : b = slash
    · simp [split, hsegs, hb, ih]
    · rw [split, hsegs]
      dsimp only
      rw [if_neg hb, List.intercalate_cons_cons_left, ih]

/-- The name of a path is extended at its end, unless it ends with a segment that names nothing. -/
theorem extendName?_bytes {p extended : Path} {more : Bytes} (hend : isIdle (endOf p.bytes) = false)
    (h : p.extendName? more = some extended) : extended = ⟨p.bytes ++ more⟩ := by
  obtain ⟨segs, hsegs⟩ := List.getLast?_eq_some_iff.1 (getLast?_split p.bytes)
  have hcount : lastCounting? p.segments = some p.segments.length := by
    simp [lastCounting?, segments, hsegs, hend]
  rw [extendName?, hcount, Option.bind_eq_bind, Option.bind_some] at h
  obtain ⟨-, -, h⟩ := Option.bind_eq_some_iff.1 h
  rw [List.take_length, ofSegments, segments, intercalate_split] at h
  exact (Option.some.inj h).symm

/-- The names of a relative path follow those of the path that it is joined to. -/
theorem filter_segments_join {p q : Path} (hq : q.isAbsolute = false) :
    ((p.join q).segments.filter fun seg => seg ≠ []) =
      (p.segments.filter fun seg => seg ≠ []) ++ q.segments.filter fun seg => seg ≠ [] := by
  rw [join, if_neg (by simp [hq])]
  by_cases hempty : p.bytes = []
  · simp [segments, hempty, split]
  · by_cases hslash : p.bytes.getLast? = some slash
    · -- the slash between the two is already there
      obtain ⟨before, hbefore⟩ := List.getLast?_eq_some_iff.1 hslash
      rw [if_pos (.inr hslash), segments, segments, segments, hbefore, List.append_assoc,
        List.singleton_append, split_append_slash, split_append_slash]
      simp [split]
    · rw [if_neg (not_or.2 ⟨hempty, hslash⟩), segments, split_append_slash, List.filter_append]
      rfl

/-- A path that is joined to another one keeps its end. -/
theorem endOf_join (p q : Path) : endOf (p.join q).bytes = endOf q.bytes := by
  have hend : ∀ before : Bytes, endOf (before ++ slash :: q.bytes) = endOf q.bytes := by
    intro before
    have hlast := getLast?_split (before ++ slash :: q.bytes)
    rw [split_append_slash, List.getLast?_append, getLast?_split, Option.some_or] at hlast
    exact (Option.some.inj hlast).symm
  unfold join
  split
  · rfl
  · split
    · next h =>
      rcases h with hempty | hslash
      · simp [hempty]
      · obtain ⟨before, hbefore⟩ := List.getLast?_eq_some_iff.1 hslash
        rw [hbefore, List.append_assoc]
        exact hend before
    · exact hend p.bytes

end Path

namespace FileTree

/-- Whether the names of the current directory lead to it. -/
def HasCurrent (t : FileTree) : Prop :=
  t.walk [] ((pathOf t.current).segments.filter fun seg => seg ≠ []) =
    .ok (.taken t.current .directory)

variable {t t' : FileTree}

/-! ### Walks -/

/-- A walk over two lists of names goes on where the first one leads. -/
theorem walk_append {location l : Location} {names : List Bytes}
    (h : t.walk location names = .ok (.taken l .directory)) (more : List Bytes) :
    t.walk location (names ++ more) = t.walk l more := by
  induction names generalizing location with
  | nil =>
    cases h
    rfl
  | cons name rest ih =>
    obtain ⟨next, hnext, hsame⟩ | ⟨-, -, -, -, hplace⟩ := walk_cons_cases h
    · rw [List.cons_append, hsame, ih hnext]
    · exact absurd rfl hplace

/-- A walk that ends at no directory ends with a name that is no dot. -/
theorem getLast?_ne_dot {location : Location} {names : List Bytes} {place : Place}
    (h : t.walk location names = .ok place) (hplace : place.node? ≠ some .directory) :
    names.getLast? ≠ some [Path.dot] := by
  induction names generalizing location with
  | nil => simp
  | cons name rest ih =>
    obtain ⟨next, hnext, -⟩ | ⟨rfl, hdot, -⟩ := walk_cons_cases h
    · cases rest with
      | nil =>
        cases hnext
        exact absurd rfl hplace
      | cons => exact ih hnext
    · simpa using hdot

/-- A walk ends at a directory if that is what it reaches. -/
theorem walk_eq_directory_iff {location l : Location} {names : List Bytes} :
    t.walk location names = .ok (.taken l .directory) ↔
      reached (t.walk location names) = some (l, true) := by
  rcases t.walk location names with e | ⟨l', content | -⟩ | ⟨directory, name⟩ <;>
    simp [reached]

/-- The current directory is there when directories have come. -/
theorem HasCurrent.grows (h : t.HasCurrent) (hgrows : Grows t t') : t'.HasCurrent := by
  obtain ⟨b, hreached, hb⟩ := hgrows.reached_walk (walk_eq_directory_iff.1 h)
  obtain rfl := hb rfl
  rw [HasCurrent, hgrows.current]
  exact walk_eq_directory_iff.2 hreached

/-- The current directory is there when a file has come where there was no directory. -/
theorem HasCurrent.put (h : t.HasCurrent) {l : Location} (hl : t.node? l ≠ some .directory)
    (content : Bytes) : (t.put l (.file content)).HasCurrent := by
  have hsame : ∀ other, (t.put l (.file content)).node? other = some .directory ↔
      t.node? other = some .directory := by
    intro other
    rw [node?_put t (ne_nil_of_node? hl)]
    split
    · next heq => simp [heq, hl]
    · rfl
  rw [HasCurrent, walk_eq_directory_iff] at h ⊢
  exact (reached_walk_congr hsame _ _).trans h

/-! ### Paths from the root -/

/-- A path that is not taken leads nowhere. -/
theorem exists_error_of_not_isTaken {p : Path} (h : ¬ p.IsTaken) : ∃ e, t.resolve p = .error e := by
  unfold resolve
  split
  · exact ⟨_, rfl⟩
  · next hzero =>
    split
    · exact ⟨_, rfl⟩
    · split
      · exact ⟨_, rfl⟩
      · next hlength => exact absurd ⟨hzero, Nat.le_of_not_lt hlength⟩ h

/-- A path that is taken leads where its names lead. -/
theorem resolve_of_isTaken {p : Path} (h : p.IsTaken) (hne : p.bytes ≠ []) :
    t.resolve p = t.walk (if p.isAbsolute then [] else t.current)
      (p.segments.filter fun seg => seg ≠ []) := by
  rw [resolve, if_neg h.1, if_neg hne, if_neg (Nat.not_lt.2 h.2)]

/-- A path that leads somewhere is taken. -/
theorem isTaken_of_resolve {p : Path} {place : Place} (h : t.resolve p = .ok place) :
    p.IsTaken ∧ p.bytes ≠ [] := by
  refine ⟨?_, ?_⟩
  · by_contra htaken
    obtain ⟨e, herror⟩ := exists_error_of_not_isTaken (t := t) htaken
    rw [h] at herror
    cases herror
  · intro hempty
    rw [resolve, if_neg (by simp [hempty]), if_pos hempty] at h
    cases h

/-- The path that starts with the current directory leads where the path itself leads, if it is
    taken. -/
theorem resolve_join (h : t.HasCurrent) {p : Path} (hne : p.bytes ≠ [])
    (htaken : ((pathOf t.current).join p).IsTaken) :
    t.resolve ((pathOf t.current).join p) = t.resolve p := by
  have hp := Path.isTaken_of_join htaken
  by_cases habsolute : p.isAbsolute = true
  · rw [Path.join, if_pos habsolute]
  · rw [Bool.not_eq_true] at habsolute
    have hwhole : ((pathOf t.current).join p).bytes ≠ [] := by
      rw [Path.join, if_neg (by simp [habsolute])]
      split <;> simp [hne]
    -- the longer path starts at the root, also if the root is the current directory
    have hstart : (if ((pathOf t.current).join p).isAbsolute then [] else t.current) = [] := by
      rcases hcurrent : t.current with - | ⟨name, names⟩
      · simp
      · have hroot : ((pathOf (name :: names)).join p).isAbsolute = true := by
          rw [Path.join, if_neg (by simp [habsolute])]
          split <;> simp [pathOf, Path.isAbsolute]
        rw [if_pos hroot]
    rw [resolve_of_isTaken htaken hwhole, hstart, Path.filter_segments_join habsolute,
      walk_append h, resolve_of_isTaken hp hne, habsolute]
    rfl

/-! ### Files that have been written -/

/-- A file that has been put at the entry of a path is what the path leads to. -/
theorem resolve_put {p : Path} {l : Location} {old : Bytes}
    (h : t.openForWriting p = .ok (l, old)) (content : Bytes) :
    (t.put l (.file content)).resolve p = .ok (.taken l (.file content)) := by
  obtain ⟨place, hresolve, hplace, -, rfl⟩ := exists_place_of_openForWriting h
  have hfree : t.node? place.location ≠ some .directory := by
    rwa [(resolve_ok hresolve hplace).1]
  have hnodes := node?_put_eq_update hfree content
  have hways : SameWays t (t.put place.location (.file content)) :=
    sameWays_of_update rfl hnodes hfree (by simp)
  -- the path leads to the same location, and not to a directory, so to what has been put there
  have hreached : reached ((t.put place.location (.file content)).resolve p) =
      some (place.location, false) := by
    rw [hways p, hresolve, reached, decide_eq_false hplace]
  rcases hresolve' : (t.put place.location (.file content)).resolve p with e | place'
  · rw [hresolve'] at hreached
    cases hreached
  · rw [hresolve'] at hreached
    have hend := Option.some.inj hreached
    have hlocation : place'.location = place.location := congrArg Prod.fst hend
    have hplace' : place'.node? ≠ some .directory := of_decide_eq_false (congrArg Prod.snd hend)
    have hnode := (resolve_ok hresolve' hplace').1
    rw [hlocation, hnodes, Function.update_self] at hnode
    rcases place' with ⟨l', node⟩ | ⟨directory, name⟩
    · obtain rfl : l' = place.location := hlocation
      obtain rfl : Node.file content = node := Option.some.inj hnode
      rfl
    · cases hnode

/-- A path that does not lead to a directory, nor says so by a slash, ends with the name of
    something. -/
theorem isIdle_endOf_eq_false {p : Path} {place : Place} (h : t.resolve p = .ok place)
    (hplace : place.node? ≠ some .directory) (hslash : namesDirectory p = false) :
    Path.isIdle (Path.endOf p.bytes) = false := by
  obtain ⟨htaken, hne⟩ := isTaken_of_resolve h
  have hlast := getLast?_segments hslash hne
  have hsome : Path.endOf p.bytes ≠ [] := by
    simpa using (List.mem_filter.1 (List.mem_of_getLast? hlast)).2
  rw [resolve_of_isTaken htaken hne] at h
  have hdot := getLast?_ne_dot h hplace
  rw [hlast] at hdot
  simpa [Path.isIdle, hsome] using hdot

/-- A path with a name at its end has no slash there. -/
theorem namesDirectory_eq_false {p : Path} (h : Path.isIdle (Path.endOf p.bytes) = false) :
    namesDirectory p = false := by
  by_contra hslash
  rw [Bool.not_eq_false, namesDirectory, beq_iff_eq] at hslash
  obtain ⟨before, hbefore⟩ := List.getLast?_eq_some_iff.1 hslash
  have hend : Path.endOf p.bytes = [] := by
    rw [hbefore]
    exact Path.endOf_append_slash before (by simp)
  simp [hend, Path.isIdle] at h

/-- A file that a path leads to is found by the path that starts with the current directory, unless
    that is not taken; then nothing is found with more behind its name either. -/
theorem isFile_join (h : t.HasCurrent) {p : Path} {l : Location} {content : Bytes}
    (hresolve : t.resolve p = .ok (.taken l (.file content))) (hslash : namesDirectory p = false) :
    let whole := (pathOf t.current).join p
    (t.isFile whole = true ∧ t.read whole = .ok content) ∨
      (t.isFile whole = false ∧ ∀ more extended, whole.extendName? more = some extended →
        t.isFile extended = false) := by
  intro whole
  have hend : Path.isIdle (Path.endOf whole.bytes) = false := by
    rw [Path.endOf_join]
    exact isIdle_endOf_eq_false hresolve (by simp) hslash
  by_cases htaken : whole.IsTaken
  · have hwhole : t.resolve whole = .ok (.taken l (.file content)) :=
      (resolve_join h (isTaken_of_resolve hresolve).2 htaken).trans hresolve
    have hfound : t.find? whole = some (.file content) := by
      simp [find?, hwhole, namesDirectory_eq_false hend]
    refine .inl ⟨by simp [isFile, hfound], ?_⟩
    rw [read, hwhole, ok_bind]
    simp [namesDirectory_eq_false hend]
  · have hnone : ∀ {q : Path}, ¬ q.IsTaken → t.isFile q = false := by
      intro q hq
      obtain ⟨e, he⟩ := exists_error_of_not_isTaken (t := t) hq
      simp [isFile, find?, he]
    refine .inr ⟨hnone htaken, fun more extended hextended => ?_⟩
    rw [Path.extendName?_bytes hend hextended]
    exact hnone (Path.not_isTaken_append htaken more)

end FileTree

end SovdConfig
