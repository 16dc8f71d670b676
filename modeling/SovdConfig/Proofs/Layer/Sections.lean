import Mathlib.Data.List.Basic
import SovdConfig.Layer.Place
import SovdConfig.Proofs.Toml.Distinct

namespace SovdConfig

/-!
# Sections of layered data

What sources say of the settings in the two sections, when they are laid over each other.  Main
definitions:

* `sectionNames`, `settingNames` — the sections and the settings in them;
* `Datum.setting?` — what is known of a setting;
* `Datum.Sectioned` — data in which the sections are tables, and no key occurs twice.

Main statements:

* `Hop.ofKey_eq_keys` — a key without brackets stands for the names between its dots;
* `Datum.Sectioned.put_inside`, `put_section`, `put_elsewhere` — what one entry of a source changes.
-/

/-- The names of the sections. -/
def sectionNames : List String := ["logging", "generator"]

/-- The settings: section and key. -/
def settingNames : List (String × String) :=
  [("logging", "level"), ("logging", "file"), ("generator", "server_host"),
   ("generator", "server_port"), ("generator", "interface"), ("generator", "isotp_padding"),
   ("generator", "doip_port"), ("generator", "doip_source_address"),
   ("generator", "did_store_path")]

/-! ### Keys -/

namespace Hop

/-- The text of names, each after a dot. -/
def dottedNames (names : List String) : List Char := names.flatMap fun name => '.' :: name.toList

/-- A name that is taken off a text stands at its start. -/
theorem eq_of_name? {cs rest : List Char} {name : String} (h : name? cs = some (name, rest)) :
    cs = name.toList ++ rest := by
  simp only [name?] at h
  split at h
  · simp at h
  · obtain ⟨rfl, rfl⟩ := Prod.mk.inj (Option.some.inj h)
    rw [String.toList_ofList, List.takeWhile_append_dropWhile]

/-- Without brackets, the steps after the first name are names after dots. -/
theorem eq_of_tail? {fuel : Nat} {cs : List Char} {hops : List Hop}
    (h : tail? fuel cs = some hops) (hbracket : '[' ∉ cs) :
    ∃ names : List String, hops = names.map key ∧ cs = dottedNames names := by
  induction fuel generalizing cs hops with
  | zero =>
    cases cs with
    | nil => exact ⟨[], by simpa [tail?, eq_comm] using h, rfl⟩
    | cons c cs => simp [tail?] at h
  | succ fuel ih =>
    cases cs with
    | nil => exact ⟨[], by simpa [tail?, eq_comm] using h, rfl⟩
    | cons c cs =>
      have hc : c ≠ '[' := fun heq => hbracket (by simp [heq])
      by_cases hdot : c = '.'
      · simp only [tail?, hdot, if_true, Option.bind_eq_bind, Option.bind_eq_some_iff] at h
        obtain ⟨⟨name, rest⟩, hname, more, hmore, heq⟩ := h
        obtain rfl := Option.some.inj heq
        have hcs := eq_of_name? hname
        obtain ⟨names, rfl, hrest⟩ := ih hmore fun hmem => hbracket (by simp [hcs, hmem])
        simp only at hrest
        exact ⟨name :: names, rfl, by simp [dottedNames, hcs, hdot, hrest]⟩
      · simp [tail?, hdot, hc] at h

/-- A key without brackets stands for the names between its dots. -/
theorem ofKey_eq_keys {k : String} (hbracket : '[' ∉ k.toList) :
    ∃ (name : String) (names : List String), ofKey k = key name :: names.map key ∧
      k.toList = name.toList ++ dottedNames names := by
  unfold ofKey
  rcases hparse : parse? k.toList with - | hops
  · exact ⟨k, [], rfl, by simp [dottedNames]⟩
  · simp only [parse?, Option.bind_eq_bind, Option.bind_eq_some_iff] at hparse
    obtain ⟨⟨name, rest⟩, hname, more, hmore, heq⟩ := hparse
    obtain rfl := Option.some.inj heq
    have hk := eq_of_name? hname
    obtain ⟨names, rfl, hrest⟩ := eq_of_tail? hmore fun hmem => hbracket (by simp [hk, hmem])
    exact ⟨name, names, rfl, by rw [hk, ← hrest]⟩

/-- A key without brackets and dots stands for itself. -/
theorem ofKey_of_plain {k : String} (hbracket : '[' ∉ k.toList) (hdot : '.' ∉ k.toList) :
    ofKey k = [key k] := by
  obtain ⟨name, names, hkey, hk⟩ := ofKey_eq_keys hbracket
  cases names with
  | nil =>
    obtain rfl : k = name := String.toList_inj.1 (by simpa [dottedNames] using hk)
    exact hkey
  | cons first names => exact absurd (by simp [hk, dottedNames]) hdot

/-- The key of two names is those names with a dot between them. -/
theorem eq_of_ofKey_pair {k sec name : String} (hbracket : '[' ∉ k.toList)
    (h : ofKey k = [key sec, key name]) : k = sec ++ "." ++ name := by
  obtain ⟨first, names, hkey, hk⟩ := ofKey_eq_keys hbracket
  rw [h] at hkey
  obtain ⟨rfl, hnames⟩ : sec = first ∧ [key name] = names.map key := by simpa using hkey
  obtain ⟨second, rfl, hsecond⟩ := List.map_eq_singleton_iff.1 hnames.symm
  obtain rfl : second = name := by simpa using hsecond
  exact String.toList_inj.1 (by simp [hk, dottedNames])

end Hop

/-! ### Settings in data -/

namespace Datum

/-- The members of a table; anything else has none. -/
def members (d : Datum) : List (String × Datum) := (asTable (some d)).2

/-- What is known of a setting. -/
def setting? (d : Datum) (sec key : String) : Option Datum :=
  (asTable (d.members.lookup sec)).2.lookup key

/-- Data in which the sections are tables and no key occurs twice. -/
structure Sectioned (d : Datum) : Prop where
  isTable : ∃ origin ms, d = .table origin ms
  nodup : (d.members.map Prod.fst).Nodup
  noSchema : d.members.lookup "$schema" = none
  sections : ∀ sec ∈ sectionNames,
    ∃ origin ms, d.members.lookup sec = some (.table origin ms) ∧ (ms.map Prod.fst).Nodup

/-- What is put under a name replaces the member of that name. -/
theorem members_put (d : Datum) (name : String) (hops : List Hop) (new : Datum) :
    (put (some d) (.key name :: hops) new).members =
      setMember d.members name (put (d.members.lookup name) hops new) := rfl

/-- A setting is sought in the section as it is after a change. -/
theorem setting?_put_self (d : Datum) (sec key : String) (hops : List Hop) (new : Datum) :
    (put (some d) (.key sec :: hops) new).setting? sec key =
      (asTable (some (put (d.members.lookup sec) hops new))).2.lookup key := by
  rw [setting?, members_put, lookup_setMember_self]

/-- A change under another name leaves the settings of a section alone. -/
theorem setting?_put_of_ne (d : Datum) {sec name : String} (key : String) (hops : List Hop)
    (new : Datum) (h : sec ≠ name) :
    (put (some d) (.key name :: hops) new).setting? sec key = d.setting? sec key := by
  rw [setting?, members_put, lookup_setMember_of_ne _ _ h, setting?]

/-! ### Tables over tables -/

/-- No key occurs twice in a table that others are laid over. -/
theorem nodup_overlayMembers {old : List (String × Datum)} (h : (old.map Prod.fst).Nodup)
    (new : List (String × Datum)) : ((overlayMembers old new).map Prod.fst).Nodup := by
  induction new generalizing old with
  | nil => simpa [overlayMembers] using h
  | cons m rest ih =>
    rw [overlayMembers]
    exact ih (nodup_setMember h _ _)

/-- A key of a table that is laid over another is found there; other keys stay. -/
theorem lookup_overlayMembers {old new : List (String × Datum)} (h : (new.map Prod.fst).Nodup)
    (key : String) :
    (overlayMembers old new).lookup key =
      match new.lookup key with
      | none => old.lookup key
      | some d => some (overlay (old.lookup key) d) := by
  induction new generalizing old with
  | nil => rfl
  | cons m rest ih =>
    obtain ⟨name, d⟩ := m
    obtain ⟨hnew, hrest⟩ := List.nodup_cons.1 h
    rw [overlayMembers, ih hrest]
    by_cases hname : key = name
    · subst hname
      simp [lookup_eq_none_of_not_mem hnew, lookup_setMember_self]
    · rw [lookup_setMember_of_ne _ _ hname, List.lookup_cons, beq_false_of_ne hname]

namespace Sectioned

variable {d : Datum}

/-- A change elsewhere leaves the sections as they are. -/
theorem put_elsewhere (h : d.Sectioned) {name : String} (hname : name ∉ sectionNames)
    (hschema : name ≠ "$schema") (hops : List Hop) (new : Datum) :
    (put (some d) (.key name :: hops) new).Sectioned where
  isTable := ⟨_, _, rfl⟩
  nodup := by
    rw [members_put]
    exact nodup_setMember h.nodup _ _
  noSchema := by
    rw [members_put, lookup_setMember_of_ne _ _ hschema.symm]
    exact h.noSchema
  sections sec hsec := by
    have hne : sec ≠ name := by
      rintro rfl
      exact hname hsec
    rw [members_put, lookup_setMember_of_ne _ _ hne]
    exact h.sections sec hsec

/-- The sections stay tables with distinct keys when one of them becomes such a table. -/
theorem put_table (h : d.Sectioned) {sec : String} (hsec : sec ∈ sectionNames) {hops : List Hop}
    {new : Datum} {origin : Option String} {ms : List (String × Datum)}
    (hput : put (d.members.lookup sec) hops new = .table origin ms)
    (hms : (ms.map Prod.fst).Nodup) : (put (some d) (.key sec :: hops) new).Sectioned where
  isTable := ⟨_, _, rfl⟩
  nodup := by
    rw [members_put]
    exact nodup_setMember h.nodup _ _
  noSchema := by
    have hne : "$schema" ≠ sec := by
      rintro rfl
      simp [sectionNames] at hsec
    rw [members_put, lookup_setMember_of_ne _ _ hne]
    exact h.noSchema
  sections other hother := by
    rw [members_put]
    by_cases heq : other = sec
    · exact ⟨origin, ms, by rw [heq, lookup_setMember_self, hput], hms⟩
    · rw [lookup_setMember_of_ne _ _ heq]
      exact h.sections other hother

/-- An entry inside a section changes what is known under one key of it. -/
theorem put_inside (h : d.Sectioned) {sec : String} (hsec : sec ∈ sectionNames) (key : String)
    (hops : List Hop) (new : Datum) :
    (put (some d) (.key sec :: .key key :: hops) new).Sectioned ∧
      (put (some d) (.key sec :: .key key :: hops) new).setting? sec key =
        some (put (d.setting? sec key) hops new) ∧
      ∀ other ≠ key, (put (some d) (.key sec :: .key key :: hops) new).setting? sec other =
        d.setting? sec other := by
  obtain ⟨origin, ms, hlookup, hms⟩ := h.sections sec hsec
  have hput : put (d.members.lookup sec) (.key key :: hops) new =
      .table origin (setMember ms key (put (ms.lookup key) hops new)) := by
    rw [hlookup]
    rfl
  have hold : ∀ k, d.setting? sec k = ms.lookup k := fun k => by
    rw [setting?, hlookup]
    rfl
  refine ⟨h.put_table hsec hput (nodup_setMember hms _ _), ?_, fun other hother => ?_⟩
  · rw [setting?_put_self, hput, hold]
    exact lookup_setMember_self _ _ _
  · rw [setting?_put_self, hput, hold]
    exact lookup_setMember_of_ne _ _ hother

/-- A table under the name of a section is laid over it. -/
theorem put_section (h : d.Sectioned) {sec : String} (hsec : sec ∈ sectionNames)
    {new : List (String × Datum)} (hnew : (new.map Prod.fst).Nodup) (origin : Option String) :
    (put (some d) [.key sec] (.table origin new)).Sectioned ∧
      ∀ key, (put (some d) [.key sec] (.table origin new)).setting? sec key =
        match new.lookup key with
        | none => d.setting? sec key
        | some v => some (overlay (d.setting? sec key) v) := by
  obtain ⟨origin', ms, hlookup, hms⟩ := h.sections sec hsec
  have hput : put (d.members.lookup sec) [] (.table origin new) =
      .table origin' (overlayMembers ms new) := by
    rw [hlookup]
    simp [put, overlay, asTable]
  have hold : ∀ k, d.setting? sec k = ms.lookup k := fun k => by
    rw [setting?, hlookup]
    rfl
  refine ⟨h.put_table hsec hput (nodup_overlayMembers hms _), fun key => ?_⟩
  rw [setting?_put_self, hput, hold]
  exact lookup_overlayMembers hnew key

end Sectioned

end Datum

end SovdConfig
