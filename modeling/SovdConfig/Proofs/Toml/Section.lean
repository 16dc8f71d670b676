import SovdConfig.Toml.Reader

namespace SovdConfig.Toml

/-!
# Sections of TOML documents

A section is a header with the assignments of the table that it opens.  Main definitions:

* `assigns`, `sectionOf` — the statements of a section;
* `fields` — its members under construction;
* `Frame`, `plug` — the tables on the way to the one that was opened last.

Main statement: `foldlM_sectionOf`, a section whose header opens an empty table fills that table and
changes no other.
-/

/-- One assignment for each member. -/
def assigns (members : List (String × Toml)) : List Statement :=
  members.map fun (key, v) => .assign [key] v

/-- A header, and the assignments of the members of its table. -/
def sectionOf (keys : List String) (members : List (String × Toml)) : List Statement :=
  .header false keys :: assigns members

/-- Members as they stand in a table under construction. -/
def fields (members : List (String × Toml)) : Items :=
  members.map fun (key, v) => (key, .value v)

/-- Members are not changed by being finished. -/
@[simp] theorem membersToToml_fields (members : List (String × Toml)) :
    membersToToml (fields members) = members := by
  induction members with
  | nil => rfl
  | cons m rest ih => simpa [fields, membersToToml, Item.toToml] using ih

/-- Each of two groups of members is finished on its own. -/
@[simp] theorem membersToToml_append (items more : Items) :
    membersToToml (items ++ more) = membersToToml items ++ membersToToml more := by
  induction items with
  | nil => rfl
  | cons m rest ih => simp [membersToToml, ih]

/-- Keys that are missing among the members are missing in the table. -/
theorem lookup_fields_eq_none {members : List (String × Toml)} {key : String}
    (h : key ∉ members.map (·.1)) : (fields members).lookup key = none := by
  induction members with
  | nil => rfl
  | cons m rest ih =>
    obtain ⟨hne, hrest⟩ : key ≠ m.1 ∧ key ∉ rest.map (·.1) := by simpa using h
    have hstep := ih hrest
    simpa [fields, List.lookup_cons, beq_false_of_ne hne] using hstep

/-- The assignments of members that are missing put them at the end. -/
theorem foldlM_assigns_nil (before : List (String × Toml)) {members : List (String × Toml)}
    (h : ((before ++ members).map (·.1)).Nodup) :
    (assigns members).foldlM Statement.extend? ⟨[], fields before⟩ =
      some ⟨[], fields (before ++ members)⟩ := by
  induction members generalizing before with
  | nil => simp [assigns]
  | cons m rest ih =>
    -- keys differ, so the next member is new and goes to the end
    have hnew : m.1 ∉ before.map (·.1) := by
      intro hmem
      simp only [List.map_append, List.map_cons] at h
      exact (List.nodup_append.1 h).2.2 m.1 hmem m.1 (by simp) rfl
    have hlookup := lookup_fields_eq_none hnew
    have hlast : fields (before ++ [m]) = fields before ++ [(m.1, .value m.2)] := by simp [fields]
    have hfirst : Statement.extend? ⟨[], fields before⟩ (.assign [m.1] m.2) =
        some ⟨[], fields (before ++ [m])⟩ := by
      simp [Statement.extend?, assignUnder?, assign?, hlookup, hlast,
        setMember_of_lookup_eq_none hlookup]
    have hrest := ih (before ++ [m]) (by simpa using h)
    simp only [assigns, List.map_cons, List.foldlM_cons, hfirst] at hrest ⊢
    simpa using hrest

/-- Below a table, assignments change that table only. -/
theorem foldlM_assigns_cons {items ms ms' : Items} {key : String} {header : List String}
    {origin : Origin} {members : List (String × Toml)}
    (hkey : items.lookup key = some (.table origin ms))
    (hms : (assigns members).foldlM Statement.extend? ⟨header, ms⟩ = some ⟨header, ms'⟩) :
    (assigns members).foldlM Statement.extend? ⟨key :: header, items⟩ =
      some ⟨key :: header, setMember items key (.table origin ms')⟩ := by
  induction members generalizing items ms with
  | nil =>
    obtain rfl : ms = ms' := by simpa [assigns] using hms
    simp [assigns, setMember_of_lookup_eq_some hkey]
  | cons m rest ih =>
    simp only [assigns, List.map_cons, List.foldlM_cons, Option.bind_eq_bind,
      Option.bind_eq_some_iff] at hms ⊢
    -- one step below the table is one step above it, in which the table is replaced
    obtain ⟨draft, hfirst, hrest⟩ := hms
    obtain ⟨next, hnext, rfl⟩ := by simpa [Statement.extend?] using hfirst
    refine ⟨⟨key :: header, setMember items key (.table origin next)⟩, ?_, ?_⟩
    · simp [Statement.extend?, assignUnder?, hkey, hnext]
    · have hstep := ih (lookup_setMember_self items key (.table origin next)) hrest
      rwa [setMember_setMember] at hstep

/-- A table on the way to the one that was opened last, as the last member of the table above it:
    the members before it, its key and how it came to be. -/
structure Frame where
  before : Items
  key : String
  origin : Origin

/-- The members of the outermost table, given those of the one that was opened last. -/
def plug : List Frame → Items → Items
  | [], ms => ms
  | frame :: frames, ms => frame.before ++ [(frame.key, .table frame.origin (plug frames ms))]

/-- The keys that lead to the table that was opened last. -/
def keysOf (frames : List Frame) : List String := frames.map (·.key)

/-- A member after others that do not have its key is the one that is found. -/
theorem lookup_append_singleton {before : Items} {key : String} (h : before.lookup key = none)
    (item : Item) : (before ++ [(key, item)]).lookup key = some item := by
  rw [← setMember_of_lookup_eq_none h, lookup_setMember_self]

/-- Assignments fill the table that was opened last, if it is empty. -/
theorem foldlM_assigns_plug {frames : List Frame} {members : List (String × Toml)}
    (hframes : ∀ frame ∈ frames, frame.before.lookup frame.key = none)
    (hmembers : (members.map (·.1)).Nodup) :
    (assigns members).foldlM Statement.extend? ⟨keysOf frames, plug frames []⟩ =
      some ⟨keysOf frames, plug frames (fields members)⟩ := by
  induction frames with
  | nil => exact foldlM_assigns_nil [] hmembers
  | cons frame frames ih =>
    -- from the outermost frame inwards; each table is the last member of the one above it
    have hkey := hframes frame (by simp)
    have hbelow := ih fun f hf => hframes f (by simp [hf])
    have hfound := lookup_append_singleton hkey (.table frame.origin (plug frames []))
    have hall := foldlM_assigns_cons hfound hbelow
    rwa [← setMember_of_lookup_eq_none hkey, setMember_setMember,
      setMember_of_lookup_eq_none hkey, setMember_of_lookup_eq_none hkey] at hall

/-- A section whose header opens an empty table fills it. -/
theorem foldlM_sectionOf (frames : List Frame) {draft : Draft} {members : List (String × Toml)}
    (hopen : open? false draft.items (keysOf frames) = some (plug frames []))
    (hframes : ∀ frame ∈ frames, frame.before.lookup frame.key = none)
    (hmembers : (members.map (·.1)).Nodup) :
    (sectionOf (keysOf frames) members).foldlM Statement.extend? draft =
      some ⟨keysOf frames, plug frames (fields members)⟩ := by
  simpa [sectionOf, Statement.extend?, hopen] using foldlM_assigns_plug hframes hmembers

end SovdConfig.Toml
