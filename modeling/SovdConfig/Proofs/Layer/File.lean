import SovdConfig.Proofs.Layer.Sections
import SovdConfig.Proofs.Record

namespace SovdConfig

/-!
# Files as sources of settings

Main definitions:

* `fileSetting?` — the value that a file gives to a setting;
* `PlainFile` — a file whose sections are tables and whose other keys are plain names.

Main statement: `Datum.addSource_file`, after a file has been laid over what was known, a setting is
what the file says, or else what it was.
-/

/-- The value that a file gives to a setting. -/
def fileSetting? (members : List (String × Toml)) (sec key : String) : Option Toml :=
  (members.lookup sec).bind (·.find? key)

/-- A file whose sections, where they are present, are tables, and whose other keys hold neither
    dots nor brackets. -/
structure PlainFile (members : List (String × Toml)) : Prop where
  sections : ∀ sec ∈ sectionNames, ∀ v, (sec, v) ∈ members → ∃ ms, v = .table ms
  others : ∀ m ∈ members, m.1 ∉ sectionNames →
    '.' ∉ m.1.toList ∧ '[' ∉ m.1.toList ∧ m.1 ≠ "$schema"

/-- A file with nothing but the section `generator` is plain. -/
theorem plainFile_generator (ms : List (String × Toml)) :
    PlainFile [("generator", .table ms)] where
  sections := by simp
  others := by simp [sectionNames]

/-! ### The order of members -/

section

variable {members members' : List (String × Toml)}

/-- A file is as plain with its members in another order. -/
theorem PlainFile.perm (h : PlainFile members) (hperm : members.Perm members') :
    PlainFile members' where
  sections sec hsec v hv := h.sections sec hsec v (hperm.mem_iff.2 hv)
  others m hm := h.others m (hperm.mem_iff.2 hm)

/-- The keys of its tables are as distinct. -/
theorem Toml.Distinct.perm (h : (Toml.table members).Distinct) (hperm : members.Perm members') :
    (Toml.table members').Distinct := by
  cases h with
  | table hnodup hinside =>
    exact .table ((hperm.map Prod.fst).nodup hnodup) fun m hm => hinside m (hperm.mem_iff.2 hm)

/-- It gives the same values to settings. -/
theorem fileSetting?_perm (h : (Toml.table members).Distinct) (hperm : members.Perm members')
    (sec key : String) : fileSetting? members' sec key = fileSetting? members sec key := by
  cases h with
  | table hnodup _ => rw [fileSetting?, fileSetting?, lookup_perm hperm hnodup]

end

namespace Datum

/-- The keys of a table stay what they are. -/
theorem map_fst_ofTomlMembers (origin : String) (members : List (String × Toml)) :
    (ofTomlMembers origin members).map Prod.fst = members.map Prod.fst := by
  induction members with
  | nil => rfl
  | cons m rest ih => simp [ofTomlMembers, ih]

/-- A key is found in a table as it was. -/
theorem lookup_ofTomlMembers (origin : String) (members : List (String × Toml)) (key : String) :
    (ofTomlMembers origin members).lookup key = (members.lookup key).map (ofToml origin) := by
  induction members with
  | nil => rfl
  | cons m rest ih =>
    obtain ⟨name, v⟩ := m
    by_cases hname : key = name
    · simp [ofTomlMembers, hname]
    · rw [ofTomlMembers, List.lookup_cons, List.lookup_cons, beq_false_of_ne hname]
      exact ih

/-- What is no table takes the place of what was there. -/
theorem overlay_ofToml {v : Toml} (h : ∀ ms, v ≠ .table ms) (old : Option Datum)
    (origin : String) : overlay old (ofToml origin v) = ofToml origin v := by
  cases v with
  | table ms => exact absurd rfl (h ms)
  | _ => rfl

/-- The names of sections stand for themselves. -/
theorem ofKey_section {sec : String} (h : sec ∈ sectionNames) : Hop.ofKey sec = [.key sec] := by
  simp only [sectionNames, List.mem_cons, List.not_mem_nil, or_false] at h
  rcases h with rfl | rfl <;> decide

/-- One entry of a file changes the section of its name, if there is one, and no other. -/
theorem Sectioned.put_file {d : Datum} (h : d.Sectioned) {members : List (String × Toml)}
    (hplain : PlainFile members) (hdistinct : (Toml.table members).Distinct) (origin : String)
    {name : String} {v : Toml} (hm : (name, v) ∈ members) :
    (put (some d) (Hop.ofKey name) (ofToml origin v)).Sectioned ∧
      (∀ sec ∈ sectionNames, ∀ key, sec ≠ name →
        (put (some d) (Hop.ofKey name) (ofToml origin v)).setting? sec key = d.setting? sec key) ∧
      (name ∈ sectionNames → ∀ key, (∀ w, v.find? key = some w → ∀ ms, w ≠ .table ms) →
        (put (some d) (Hop.ofKey name) (ofToml origin v)).setting? name key =
          ((v.find? key).map (ofToml origin) <|> d.setting? name key)) := by
  -- a section is laid over the one that is there, and anything else stands beside them
  by_cases hname : name ∈ sectionNames
  · obtain ⟨ms, rfl⟩ := hplain.sections name hname v hm
    have hms : (ms.map Prod.fst).Nodup := by
      cases hdistinct with
      | table _ hinside =>
        cases hinside _ hm with
        | table hnodup _ => exact hnodup
    have hnew : ((ofTomlMembers origin ms).map Prod.fst).Nodup := by rwa [map_fst_ofTomlMembers]
    rw [ofKey_section hname, ofToml]
    obtain ⟨hsectioned, hsetting⟩ := h.put_section hname hnew (some origin)
    refine ⟨hsectioned, fun sec hsec key hne => setting?_put_of_ne d key _ _ hne,
      fun _ key hscalar => ?_⟩
    rw [hsetting, lookup_ofTomlMembers, Toml.find?]
    rcases hw : ms.lookup key with - | w
    · rfl
    · exact congrArg some (overlay_ofToml (hscalar w hw) _ _)
  · obtain ⟨hdot, hbracket, hschema⟩ := hplain.others _ hm hname
    rw [Hop.ofKey_of_plain hbracket hdot]
    exact ⟨h.put_elsewhere hname hschema _ _,
      fun sec hsec key hne => setting?_put_of_ne d key _ _ hne, fun hmem => absurd hmem hname⟩

/-- After a file, a setting is what the file says, or else what it was. -/
theorem addSource_file {d : Datum} (h : d.Sectioned) {members : List (String × Toml)}
    (hplain : PlainFile members) (hdistinct : (Toml.table members).Distinct) (origin : String) :
    (addSource d (ofTomlMembers origin members)).Sectioned ∧
      ∀ sec ∈ sectionNames, ∀ key,
        (∀ w, fileSetting? members sec key = some w → ∀ ms, w ≠ .table ms) →
          (addSource d (ofTomlMembers origin members)).setting? sec key =
            ((fileSetting? members sec key).map (ofToml origin) <|> d.setting? sec key) := by
  induction members generalizing d with
  | nil => exact ⟨h, fun sec _ key _ => rfl⟩
  | cons m rest ih =>
    obtain ⟨name, v⟩ := m
    obtain ⟨hnew, hrest⟩ : name ∉ rest.map Prod.fst ∧ (Toml.table rest).Distinct := by
      cases hdistinct with
      | table hnodup hinside =>
        obtain ⟨hnew, hnodup⟩ := List.nodup_cons.1 hnodup
        exact ⟨hnew, .table hnodup fun m hm => hinside m (by simp [hm])⟩
    have hothers : PlainFile rest :=
      ⟨fun sec hsec v hv => hplain.sections sec hsec v (by simp [hv]),
        fun m hm => hplain.others m (by simp [hm])⟩
    obtain ⟨hput, hsame, hfirst⟩ := h.put_file hplain hdistinct origin (List.mem_cons_self)
    obtain ⟨hall, hmore⟩ := ih hput hothers hrest
    refine ⟨hall, fun sec hsec key hscalar => ?_⟩
    by_cases hname : sec = name
    -- no later entry has the same name
    · subst hname
      have hnone : fileSetting? rest sec key = none := by
        rw [fileSetting?, lookup_eq_none_of_not_mem hnew]
        rfl
      have hfile : fileSetting? ((sec, v) :: rest) sec key = v.find? key := by
        simp [fileSetting?]
      have hlater := hmore sec hsec key (by simp [hnone])
      rw [hnone] at hlater
      rw [hfile] at hscalar ⊢
      rw [← hfirst hsec key hscalar]
      exact hlater
    · have hfile : fileSetting? ((name, v) :: rest) sec key = fileSetting? rest sec key := by
        simp [fileSetting?, List.lookup_cons, beq_false_of_ne hname]
      rw [hfile] at hscalar ⊢
      rw [← hsame sec hsec key hname]
      exact hmore sec hsec key hscalar

end Datum

end SovdConfig
