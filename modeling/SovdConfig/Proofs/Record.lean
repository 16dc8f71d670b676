import Mathlib.Data.List.Nodup
import SovdConfig.Members

namespace SovdConfig

/-!
# Records from named parts

A record starts from its default, and each part that is given under a name changes it.  Main
definitions:

* `Slot` — a name, and how a part under that name changes the record;
* `fill` — the record with its parts, parts under other names being passed over;
* `OnlySlot` — whether a field of the record is changed under one name only;
* `Gives` — whether a part gives a value, a missing part giving the default.

Main statements:

* `fill_isSome` — the record can be filled if each of its parts can be read;
* `fill_given` — each field of it is given by the part under its name, if that is there once.
-/

variable {δ α σ : Type}

/-- A name, and how a part under that name changes a record. -/
structure Slot (δ σ : Type) where
  key : String
  read : δ → Option (σ → σ)

/-- The slot of a field: what is read is put into the record. -/
def Slot.ofField (key : String) (read : δ → Option α) (set : α → σ → σ) : Slot δ σ :=
  ⟨key, fun d => (read d).map set⟩

/-- The slot of a name. -/
def slotOf? (slots : List (Slot δ σ)) (key : String) : Option (Slot δ σ) :=
  slots.find? (·.key = key)

/-- The record with its parts, one after the other; parts under unknown names are passed over. -/
def fill (slots : List (Slot δ σ)) : List (String × δ) → σ → Option σ
  | [], s => some s
  | (key, d) :: rest, s =>
    match slotOf? slots key with
    | none => fill slots rest s
    | some slot => (slot.read d).bind fun update => fill slots rest (update s)

/-- Whether a part is read as a value, a missing part giving the default. -/
def Gives (part : Option δ) (read : δ → Option α) (default a : α) : Prop :=
  match part with
  | none => a = default
  | some d => read d = some a

/-- Whether the slots of other names leave a field of the record alone. -/
def OnlySlot (slots : List (Slot δ σ)) (key : String) (get : σ → α) : Prop :=
  ∀ slot ∈ slots, slot.key ≠ key → ∀ d update, slot.read d = some update →
    ∀ s, get (update s) = get s

variable {slots : List (Slot δ σ)} {parts : List (String × δ)}

/-! ### Slots -/

/-- A slot that is found has the name that was sought. -/
theorem key_of_slotOf? {key : String} {slot : Slot δ σ} (h : slotOf? slots key = some slot) :
    slot.key = key ∧ slot ∈ slots :=
  ⟨by simpa using List.find?_some h, List.mem_of_find?_eq_some h⟩

/-- No slot at all changes nothing. -/
@[simp] theorem onlySlot_nil (key : String) (get : σ → α) :
    OnlySlot ([] : List (Slot δ σ)) key get := by
  simp [OnlySlot]

/-- One more slot must leave the field alone, unless it is the slot of the field itself. -/
@[simp] theorem onlySlot_cons {β : Type} {key name : String} {get : σ → α} {read : δ → Option β}
    {set : β → σ → σ} :
    OnlySlot (.ofField name read set :: slots) key get ↔
      (name = key ∨ ∀ d b, read d = some b → ∀ s, get (set b s) = get s) ∧
        OnlySlot slots key get := by
  simp only [OnlySlot, List.forall_mem_cons, Slot.ofField, Option.map_eq_some_iff,
    or_iff_not_imp_left]
  refine and_congr_left fun _ => imp_congr_right fun _ => forall_congr' fun d => ?_
  constructor
  · exact fun h b hb => h (set b) ⟨b, hb, rfl⟩
  · rintro h update ⟨b, hb, rfl⟩
    exact h b hb

/-- If no two slots have the same name, each of them is the slot of its name. -/
theorem slotOf?_of_mem (hnodup : (slots.map Slot.key).Nodup) {slot : Slot δ σ}
    (h : slot ∈ slots) : slotOf? slots slot.key = some slot := by
  induction slots with
  | nil => simp at h
  | cons first rest ih =>
    obtain ⟨hnew, hnodup⟩ := List.nodup_cons.1 hnodup
    rcases List.mem_cons.1 h with rfl | h
    · simp [slotOf?]
    · have hne : first.key ≠ slot.key := fun heq => hnew (heq ▸ List.mem_map_of_mem h)
      simpa [slotOf?, hne] using ih hnodup h

/-! ### Names that occur once -/

/-- Any part under a name that occurs at most once is the one that is found there. -/
theorem lookup_of_mem_of_count {key : String} {d : δ} (h : (key, d) ∈ parts)
    (hcount : (parts.map Prod.fst).count key ≤ 1) : parts.lookup key = some d := by
  induction parts with
  | nil => simp at h
  | cons m rest ih =>
    by_cases hkey : m.1 = key
    · rw [List.map_cons, hkey, List.count_cons_self] at hcount
      rcases List.mem_cons.1 h with rfl | h
      · simp
      · have hpos : 0 < (rest.map Prod.fst).count key :=
          List.count_pos_iff.2 (List.mem_map.2 ⟨_, h, rfl⟩)
        omega
    · rw [List.map_cons, List.count_cons_of_ne hkey] at hcount
      rcases List.mem_cons.1 h with rfl | h
      · exact absurd rfl hkey
      · rw [List.lookup_cons, beq_false_of_ne (Ne.symm hkey)]
        exact ih h hcount

/-- If no name occurs twice, every part is the one that is found under its name. -/
theorem lookup_of_mem_of_nodup {key : String} {d : δ} (h : (key, d) ∈ parts)
    (hdistinct : (parts.map Prod.fst).Nodup) : parts.lookup key = some d :=
  lookup_of_mem_of_count h (List.nodup_iff_count_le_one.1 hdistinct key)

/-- What is found under a name does not depend on the order, if no name occurs twice. -/
theorem lookup_perm {parts' : List (String × δ)} (h : parts.Perm parts')
    (hdistinct : (parts.map Prod.fst).Nodup) (key : String) :
    parts'.lookup key = parts.lookup key := by
  have hdistinct' := (h.map Prod.fst).nodup hdistinct
  cases hd : parts.lookup key with
  | some d =>
    exact lookup_of_mem_of_nodup (h.subset (mem_of_lookup_eq_some hd)) hdistinct'
  | none =>
    cases hd' : parts'.lookup key with
    | none => rfl
    | some d =>
      have hmem := h.symm.subset (mem_of_lookup_eq_some hd')
      rw [lookup_of_mem_of_nodup hmem hdistinct] at hd
      cases hd

/-- Only one value is given by a part. -/
theorem Gives.unique {part : Option δ} {read : δ → Option α} {default a b : α}
    (ha : Gives part read default a) (hb : Gives part read default b) : a = b := by
  cases part
  · exact ha.trans hb.symm
  · exact Option.some.inj (ha.symm.trans hb)

/-- A part that gives a value can be read into the slot of its field, if its name occurs at most
    once. -/
theorem Gives.isSome_read {key : String} {read : δ → Option α} {default a : α}
    (h : Gives (parts.lookup key) read default a) (hcount : (parts.map Prod.fst).count key ≤ 1)
    (set : α → σ → σ) :
    ∀ d, (key, d) ∈ parts → ((Slot.ofField key read set).read d).isSome := by
  intro d hd
  rw [lookup_of_mem_of_count hd hcount, Gives] at h
  simp [Slot.ofField, h]

/-! ### Filling -/

/-- The record can be filled if each of its parts can be read. -/
theorem fill_isSome
    (h : ∀ slot ∈ slots, ∀ d, (slot.key, d) ∈ parts → (slot.read d).isSome) (s : σ) :
    (fill slots parts s).isSome := by
  induction parts generalizing s with
  | nil => rfl
  | cons m rest ih =>
    obtain ⟨key, d⟩ := m
    have hrest := ih fun slot hslot d hd => h slot hslot d (by simp [hd])
    rw [fill]
    rcases hslot : slotOf? slots key with - | slot
    · exact hrest s
    · obtain ⟨rfl, hmem⟩ := key_of_slotOf? hslot
      obtain ⟨update, hupdate⟩ := Option.isSome_iff_exists.1 (h slot hmem d (by simp))
      simpa [hupdate] using hrest (update s)

/-- A part under another name leaves a field alone, and the record is filled with the others. -/
theorem exists_fill_of_cons {key name : String} {d : δ} {rest : List (String × δ)} {get : σ → α}
    (hother : OnlySlot slots key get) (hne : name ≠ key) {s t : σ}
    (h : fill slots ((name, d) :: rest) s = some t) :
    ∃ s', fill slots rest s' = some t ∧ get s' = get s := by
  rw [fill] at h
  rcases hslot : slotOf? slots name with - | slot
  · rw [hslot] at h
    exact ⟨s, h, rfl⟩
  · rw [hslot] at h
    obtain ⟨hkey, hmem⟩ := key_of_slotOf? hslot
    obtain ⟨update, hupdate, hrest⟩ := Option.bind_eq_some_iff.1 h
    exact ⟨update s, hrest, hother slot hmem (by rwa [hkey]) d update hupdate s⟩

/-- A field keeps its value if there is no part under its name. -/
theorem fill_of_lookup_eq_none {key : String} {get : σ → α} (hother : OnlySlot slots key get)
    (hlookup : parts.lookup key = none) {s t : σ} (h : fill slots parts s = some t) :
    get t = get s := by
  induction parts generalizing s with
  | nil =>
    obtain rfl : s = t := by simpa [fill] using h
    rfl
  | cons m rest ih =>
    obtain ⟨name, d⟩ := m
    have hne : key ≠ name := by
      rintro rfl
      simp at hlookup
    rw [List.lookup_cons, beq_false_of_ne hne] at hlookup
    obtain ⟨s', hrest, hkeep⟩ := exists_fill_of_cons hother hne.symm h
    rw [ih hlookup hrest, hkeep]

/-- A field of a filled record is given by the part under its name, if that is there at most
    once. -/
theorem fill_given {key : String} {read : δ → Option α} {set : α → σ → σ} (get : σ → α)
    (hslot : slotOf? slots key = some (.ofField key read set)) (hset : ∀ a s, get (set a s) = a)
    (hother : OnlySlot slots key get)
    (hcount : (parts.map Prod.fst).count key ≤ 1) {s t : σ} (h : fill slots parts s = some t) :
    Gives (parts.lookup key) read (get s) (get t) := by
  induction parts generalizing s with
  | nil =>
    obtain rfl : s = t := by simpa [fill] using h
    rfl
  | cons m rest ih =>
    obtain ⟨name, d⟩ := m
    by_cases hname : name = key
    · subst hname
      rw [List.map_cons, List.count_cons_self] at hcount
      rw [fill, hslot] at h
      obtain ⟨update, hupdate, hrest⟩ := Option.bind_eq_some_iff.1 h
      obtain ⟨a, ha, rfl⟩ := Option.map_eq_some_iff.1 hupdate
      -- the key does not come again, so what is set now stays
      have hkeep := fill_of_lookup_eq_none hother
        (lookup_eq_none_of_not_mem (List.count_eq_zero.1 (by omega))) hrest
      simpa [Gives, hkeep, hset] using ha
    · rw [List.map_cons, List.count_cons_of_ne hname] at hcount
      obtain ⟨s', hrest, hkeep⟩ := exists_fill_of_cons hother hname h
      have hmore := ih hcount hrest
      rw [hkeep] at hmore
      simpa only [List.lookup_cons, beq_false_of_ne (Ne.symm hname)] using hmore

/-- What is known of the fields of filled records says which records can be filled, if it is known
    of one record only and lets its parts be read. -/
theorem fill_eq_some_iff {P : σ → Prop} {s u : σ} (hfill : ∀ t, fill slots parts s = some t → P t)
    (hunique : ∀ t u, P t → P u → t = u)
    (hread : P u → ∀ slot ∈ slots, ∀ d, (slot.key, d) ∈ parts → (slot.read d).isSome) :
    fill slots parts s = some u ↔ P u := by
  refine ⟨hfill u, fun hu => ?_⟩
  obtain ⟨t, ht⟩ := Option.isSome_iff_exists.1 (fill_isSome (hread hu) s)
  rw [ht, hunique t u (hfill t ht) hu]

end SovdConfig
