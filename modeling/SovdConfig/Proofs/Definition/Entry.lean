import SovdConfig.Proofs.Definition.Layout
import SovdConfig.Proofs.Yaml.Nesting

namespace SovdConfig

/-!
# Entries are read back

Main definitions:

* `IsLabel` — the texts that need no quotes;
* `Definition.IsReadable` — entries of labels and numbers that can be read back;
* `Definition.outline` — an entry as a table.

Main statements:

* `ValueLayout.value_gives`, `ValueLayout.ofMembers?_value` — the size of a value is read back from
  data of unknown type;
* `Definition.ofSpot_gives` — so is an entry.
-/

open Yaml Reading

/-! ### Entries that can be read back -/

/-- Whether a text is a label: words of letters, digits, `_` and `/` with single blanks between
    them, with a letter at its start, and none of the words for an empty value or a truth value. -/
structure IsLabel (text : String) : Prop where
  starts : text.toList.head?.any Char.isAlpha = true
  words : ∀ w ∈ text.toList.splitOn ' ', w ≠ [] ∧ ∀ c ∈ w, c.isAlphanum = true ∨ c = '_' ∨ c = '/'
  notNothing : Plain.isNothing text = false
  notBoolean : Plain.boolean? text = none

instance (text : String) : Decidable (IsLabel text) :=
  decidable_of_iff (text.toList.head?.any Char.isAlpha = true ∧
    (∀ w ∈ text.toList.splitOn ' ', w ≠ [] ∧ ∀ c ∈ w, c.isAlphanum = true ∨ c = '_' ∨ c = '/') ∧
    Plain.isNothing text = false ∧ Plain.boolean? text = none)
    ⟨fun ⟨h₁, h₂, h₃, h₄⟩ => ⟨h₁, h₂, h₃, h₄⟩, fun ⟨h₁, h₂, h₃, h₄⟩ => ⟨h₁, h₂, h₃, h₄⟩⟩

/-- Whether the numbers of a conversion can be read back and its unit is a label. -/
structure Scaling.IsReadable (c : Scaling) : Prop where
  factor : c.factor.IsReadable
  offset : c.offset.IsReadable
  unit : IsLabel c.unit

instance (c : Scaling) : Decidable c.IsReadable :=
  decidable_of_iff (c.factor.IsReadable ∧ c.offset.IsReadable ∧ IsLabel c.unit)
    ⟨fun ⟨h, h', h''⟩ => ⟨h, h', h''⟩, fun ⟨h, h', h''⟩ => ⟨h, h', h''⟩⟩

/-- Whether the size of a value can be read back.  Every length can. -/
def ValueLayout.IsReadable : ValueLayout → Prop
  | .length _ => True
  | .scaled c => c.IsReadable

instance : (layout : ValueLayout) → Decidable layout.IsReadable
  | .length _ => inferInstanceAs (Decidable True)
  | .scaled c => inferInstanceAs (Decidable c.IsReadable)

/-- Whether an entry can be read back.  Every identifier, level of access and encoding can. -/
structure Definition.IsReadable (e : Definition) : Prop where
  name : IsLabel e.name
  description : IsLabel e.description
  layout : e.layout.IsReadable

instance (e : Definition) : Decidable e.IsReadable :=
  decidable_of_iff (IsLabel e.name ∧ IsLabel e.description ∧ e.layout.IsReadable)
    ⟨fun ⟨h, h', h''⟩ => ⟨h, h', h''⟩, fun ⟨h, h', h''⟩ => ⟨h, h', h''⟩⟩

/-! ### Labels -/

namespace IsLabel

variable {text : String}

/-- A label stands for itself. -/
theorem ofText (h : IsLabel text) : Plain.ofText text = .text text := by
  obtain ⟨c, hc, halpha⟩ := (Option.any_eq_true _ _).1 h.starts
  obtain ⟨cs, htext⟩ := List.head?_eq_some_iff.1 hc
  exact Plain.ofText_letter htext halpha h.notNothing h.notBoolean

/-- A label is a plain scalar. -/
theorem isPlain (h : IsLabel text) : IsPlain text.toList := by
  refine ⟨⟨text.toList.splitOn ' ', List.splitOn_ne_nil _ _, List.intercalate_splitOn _, ?_⟩, ?_⟩
  · intro w hw
    obtain ⟨hne, hcs⟩ := h.words w hw
    refine ⟨hne, fun c hc => ?_⟩
    rcases hcs c hc with halphanum | rfl | rfl
    · exact isWord_of_isAlphanum halphanum
    · decide
    · decide
  · obtain ⟨c, hc, halpha⟩ := (Option.any_eq_true _ _).1 h.starts
    obtain ⟨cs, htext⟩ := List.head?_eq_some_iff.1 hc
    exact ⟨c, cs, htext, .inl (by simp [Char.isAlphanum, halpha])⟩

end IsLabel

/-! ### Reading an entry -/

/-- The members of a conversion. -/
def Scaling.members (c : Scaling) : List (String × String) :=
  [("factor", c.factor.text .plain), ("offset", c.offset.text .plain), ("unit", c.unit)]

/-- The member that says how large a value is. -/
def ValueLayout.member : ValueLayout → String × Outline
  | .length bytes => ("length", .text (decimalText bytes.toNat))
  | .scaled c => ("scaling", .table (c.members.map fun m => (m.1, .text m.2)))

namespace ValueLayout

/-- The value of the member that says how large a value is. -/
def value : ValueLayout → Value
  | .length bytes => .plain (.natural bytes.toNat)
  | .scaled c => .mapping (c.members.map fun m => (Spot.textValue m.1, Spot.textValue m.2))

/-- The names of the parts of a conversion stand for themselves. -/
theorem ofText_partName :
    ∀ name ∈ ["factor", "offset", "unit"], Plain.ofText name = .text name := by
  decide

variable {layout : ValueLayout} {s : Spot}

/-- The size of a value is read as data. -/
theorem value_gives (h : layout.IsReadable) (hs : layout.member.2.Shows s.node) {depth : Nat}
    (hdepth : s.depth = depth + 1) : s.value.Gives layout.value := by
  cases layout with
  | length bytes =>
    have hread := ofText_decimalText bytes
    have hdata : Spot.IsData (Plain.ofText (decimalText bytes.toNat)) := by
      rw [hread]
      exact isData_natural bytes.toNat_lt
    have hvalue := Spot.value_text_gives hs hdata
    rwa [Spot.textValue, hread] at hvalue
  | scaled c =>
    have htext : ∀ text, Plain.ofText text = .text text → Spot.IsData (Plain.ofText text) :=
      fun text hread what => by simp [hread, Plain.found]
    refine Spot.value_table_gives hs ?_ hdepth
    simp only [Scaling.members, List.forall_mem_cons]
    exact ⟨⟨htext _ (ofText_partName _ (by simp)), (double?_text h.factor).1⟩,
      ⟨htext _ (ofText_partName _ (by simp)), (double?_text h.offset).1⟩,
      ⟨htext _ (ofText_partName _ (by simp)), htext _ h.unit.ofText⟩, by simp⟩

/-- The size of a value is found among the members. -/
theorem ofMembers?_value (h : layout.IsReadable) :
    ofMembers? [(layout.member.1, layout.value)] = some layout := by
  cases layout with
  | length bytes => simp [ofMembers?, only?, member, value, bytes?]
  | scaled c =>
    have hname : ∀ k ∈ ["factor", "offset", "unit"], partName? (Spot.textValue k) = some k := by
      intro k hk
      rw [Spot.textValue, ofText_partName k hk, partName?]
    have hunit : text? (Spot.textValue c.unit) = some c.unit := by
      rw [Spot.textValue, h.unit.ofText, text?]
    have hfactor : double? (Spot.textValue (c.factor.text .plain)) = some c.factor :=
      (double?_text h.factor).2
    have hoffset : double? (Spot.textValue (c.offset.text .plain)) = some c.offset :=
      (double?_text h.offset).2
    have hscaling : scaling? (value (.scaled c)) = some c := by
      simp [scaling?, value, Scaling.members, hname, only?, hunit, hfactor, hoffset]
    simp [ofMembers?, only?, member, hscaling]

end ValueLayout

namespace Definition

/-- The members of an entry whose values are texts. -/
def textMembers (e : Definition) : List (String × String) :=
  [("did", hexText 4 e.did.toNat), ("name", e.name), ("description", e.description),
   ("access", e.access.name), ("data_type", e.dataType.name)]

/-- An entry as an outline. -/
def outline (e : Definition) : Outline :=
  .table ((e.textMembers.map fun m => (m.1, .text m.2)) ++ [e.layout.member])

/-- An entry is read back. -/
theorem ofSpot_gives {e : Definition} (h : e.IsReadable) {s : Spot} (hs : e.outline.Shows s.node)
    {depth : Nat} (hdepth : s.depth = depth + 2) : (ofSpot s).Gives e := by
  -- the members are read in the order in which they are written, each into its own field
  have hdid : Spot.Adds addMember (depth + 1) ("did", .text (hexText 4 e.did.toNat)) {}
      ⟨e.did, none, none, none, none, []⟩ := by
    intro key value hk hv _
    have hfits : fitsUnsigned 16 e.did.toNat = true := decide_eq_true e.did.toNat_lt
    have hword := Spot.word_gives hv
      (Plain.word?_hexText 4 (fitsUnsigned_mono (by decide) hfits)) hfits
    rw [UInt16.ofNat_toNat] at hword
    exact (Spot.text_gives hk _).bind ((hword.map some).bind (.pure _))
  have hname : Spot.Adds addMember (depth + 1) ("name", .text e.name)
      ⟨e.did, none, none, none, none, []⟩ ⟨e.did, e.name, none, none, none, []⟩ :=
    fun _ _ hk hv _ =>
      (Spot.text_gives hk _).bind (((Spot.text_gives hv _).map some).bind (.pure _))
  have hdescription : Spot.Adds addMember (depth + 1) ("description", .text e.description)
      ⟨e.did, e.name, none, none, none, []⟩ ⟨e.did, e.name, e.description, none, none, []⟩ :=
    fun _ _ hk hv _ =>
      (Spot.text_gives hk _).bind (((Spot.text_gives hv _).map some).bind (.pure _))
  have haccess : Spot.Adds addMember (depth + 1) ("access", .text e.access.name)
      ⟨e.did, e.name, e.description, none, none, []⟩
      ⟨e.did, e.name, e.description, e.access, none, []⟩ :=
    fun _ _ hk hv _ => (Spot.text_gives hk _).bind
      (((Spot.variant_gives hv (AccessLevel.ofName?_name _) _).map some).bind (.pure _))
  have htype : Spot.Adds addMember (depth + 1) ("data_type", .text e.dataType.name)
      ⟨e.did, e.name, e.description, e.access, none, []⟩
      ⟨e.did, e.name, e.description, e.access, e.dataType, []⟩ :=
    fun _ _ hk hv _ => (Spot.text_gives hk _).bind
      (((Spot.variant_gives hv (DataType.ofName?_name _) _).map some).bind (.pure _))
  have hlayout : Spot.Adds addMember (depth + 1) e.layout.member
      ⟨e.did, e.name, e.description, e.access, e.dataType, []⟩
      ⟨e.did, e.name, e.description, e.access, e.dataType,
        [(e.layout.member.1, e.layout.value)]⟩ := by
    intro key value hk hv hd
    have hvalue := ValueLayout.value_gives h.layout hv hd
    refine (Spot.text_gives hk _).bind ?_
    cases hlayout : e.layout with
    | length bytes =>
      rw [hlayout] at hvalue
      exact hvalue.bind (.pure _)
    | scaled c =>
      rw [hlayout] at hvalue
      exact hvalue.bind (.pure _)
  refine Spot.members_gives (.cons hdid (.cons hname (.cons hdescription (.cons haccess
    (.cons htype (.cons hlayout .nil)))))) hs hdepth _ ?_
  have hfound := ValueLayout.ofMembers?_value h.layout
  simp only [ofDraft, required, pure_bind, hfound]
  exact .pure e

end Definition

end SovdConfig
