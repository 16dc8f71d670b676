import Mathlib.Data.List.Induction
import SovdConfig.Definition.Reader
import SovdConfig.Proofs.Definition.Members

namespace SovdConfig.Definition

/-!
# Entries are read by their members

What the reader of definitions makes of a document depends on the members of its entries, not on
their order.  Main definitions:

* `Draft.add`, `Draft.ofFields` — the parts of an entry, member by member and all together;
* `entries?` — the members of each entry of a document.

Main statements:

* `foldlM_bind_definition?` — read one by one, members give the definition that they give together;
* `ofSpot_answers`, `toOption_listOfYaml` — entries and documents are read as what members give;
* `listOfYaml_by_members` — which documents are read, as which definitions.
-/

open Yaml Reading

variable {fields fields' : List (String × Value)}

/-! ### One member -/

/-- The keys that are known. -/
def knownKeys : List String := ["did", "name", "description", "access", "data_type"]

/-- There are no others. -/
theorem notMem_knownKeys {key : String} (hdid : key ≠ "did") (hname : key ≠ "name")
    (hdescription : key ≠ "description") (haccess : key ≠ "access")
    (hdataType : key ≠ "data_type") : key ∉ knownKeys := by
  simp [knownKeys, hdid, hname, hdescription, haccess, hdataType]

/-- A part that must not be there yet. -/
def fresh? {α : Type} (old new : Option α) : Option (Option α) :=
  if old.isSome then none else new.map some

/-- An entry with one more field. -/
def Draft.add (d : Draft) (field : String × Value) : Option Draft :=
  match field.1 with
  | "did" => do
    return { d with did := ← fresh? d.did (did? field.2) }
  | "name" => do
    return { d with name := ← fresh? d.name field.2.text? }
  | "description" => do
    return { d with description := ← fresh? d.description field.2.text? }
  | "access" => do
    return { d with access := ← fresh? d.access (field.2.named? AccessLevel.ofName?) }
  | "data_type" => do
    return { d with dataType := ← fresh? d.dataType (field.2.named? DataType.ofName?) }
  | _ => some { d with others := d.others ++ [field] }

/-- A field under any other key is kept as it is. -/
theorem Draft.add_other (d : Draft) {name : String} (h : name ∉ knownKeys) (v : Value) :
    d.add (name, v) = some { d with others := d.others ++ [(name, v)] } := by
  simp only [knownKeys, List.mem_cons, List.not_mem_nil, or_false, not_or] at h
  obtain ⟨hdid, hname, hdescription, haccess, hdataType⟩ := h
  unfold add
  split <;> first | contradiction | rfl

/-- Whether a field holds what its key is for. -/
def Fits (field : String × Value) : Prop :=
  match field.1 with
  | "did" => (field.2.integer?).isSome
  | "name" | "description" => (field.2.text?).isSome
  | "access" => (field.2.named? AccessLevel.ofName?).isSome
  | "data_type" => (field.2.named? DataType.ofName?).isSome
  | _ => True

/-- A part is read if it is not there yet. -/
theorem once_answers {α : Type} (field : String) {old new : Option α} {r : Reading α}
    (h : r.Answers new) : (once field old r).Answers (fresh? old new) := by
  unfold once fresh?
  split
  · exact answers_misfit _
  · exact h.map some

/-- An integer is read as an identifier if it is one. -/
theorem word_answers {s : Spot} {v : Value} (h : s.node.data? = some v)
    (hv : (v.integer?).isSome) : s.word.Answers (did? v) := by
  unfold Value.integer? at hv
  split at hv
  · exact Spot.word_answers_natural h
  · exact Spot.word_answers_signed h
  · cases hv

/-- A text is read. -/
theorem text_answers {s : Spot} {v : Value} (h : s.node.data? = some v) (hv : (v.text?).isSome)
    (expected : String) : (s.text expected).Answers v.text? := by
  obtain ⟨content, hcontent⟩ := Option.isSome_iff_exists.1 hv
  rw [Value.text?_eq_some_iff.1 hcontent] at h ⊢
  exact Spot.text_answers h expected

/-- A known name is read. -/
theorem variant_answers {α : Type} {s : Spot} {v : Value} (h : s.node.data? = some v)
    {ofName? : String → Option α} (hv : (v.named? ofName?).isSome) (known : List String) :
    (s.variant ofName? known).Answers (v.named? ofName?) := by
  obtain ⟨a, ha⟩ := Option.isSome_iff_exists.1 hv
  obtain ⟨content, hcontent, hname⟩ := Option.bind_eq_some_iff.1 ha
  rw [Value.text?_eq_some_iff.1 hcontent] at h
  rw [ha]
  exact Spot.variant_answers h hname known

/-- A member is read as its field. -/
theorem addMember_answers {field : String × Value} (hfits : Fits field) (d : Draft)
    {key value : Spot} (hkey : key.node.data? = some (.plain (.text field.1)))
    (hvalue : value.node.data? = some field.2) (hdepth : field.2.depth ≤ value.depth) :
    (addMember d key value).Answers (d.add field) := by
  unfold addMember
  refine (Spot.text_answers hkey _).andThen ?_
  obtain ⟨name, v⟩ := field
  dsimp only at *
  split
  · exact (once_answers _ (word_answers hvalue hfits)).bind fun _ _ => answers_pure _
  · exact (once_answers _ (text_answers hvalue hfits _)).bind fun _ _ => answers_pure _
  · exact (once_answers _ (text_answers hvalue hfits _)).bind fun _ _ => answers_pure _
  · exact (once_answers _ (variant_answers hvalue hfits _)).bind fun _ _ => answers_pure _
  · exact (once_answers _ (variant_answers hvalue hfits _)).bind fun _ _ => answers_pure _
  · next hdid hname hdescription haccess hdataType =>
    have hother := notMem_knownKeys hdid hname hdescription haccess hdataType
    rw [Draft.add_other d hother]
    exact (Spot.value_answers hvalue hdepth).andThen (answers_pure _)

/-! ### All members -/

/-- The parts of an entry that fields give. -/
def Draft.ofFields (fields : List (String × Value)) : Draft where
  did := (fields.lookup "did").bind did?
  name := (fields.lookup "name").bind Value.text?
  description := (fields.lookup "description").bind Value.text?
  access := (fields.lookup "access").bind (Value.named? AccessLevel.ofName?)
  dataType := (fields.lookup "data_type").bind (Value.named? DataType.ofName?)
  others := fields.filter fun field => field.1 ∉ knownKeys

/-- What stands under one key is not changed by a field under another one. -/
theorem lookup_concat_of_ne (init : List (String × Value)) {key name : String} (h : key ≠ name)
    (v : Value) : (init ++ [(name, v)]).lookup key = init.lookup key := by
  simp [List.lookup_append, List.lookup_cons, beq_false_of_ne h]

/-- A new field is found. -/
theorem lookup_concat_self {init : List (String × Value)} {key : String}
    (h : key ∉ init.map Prod.fst) (v : Value) : (init ++ [(key, v)]).lookup key = some v := by
  simp [List.lookup_append, lookup_eq_none_of_not_mem h]

/-- One more field gives one more part. -/
theorem Draft.add_ofFields {init : List (String × Value)} {field : String × Value}
    (hnew : field.1 ∉ init.map Prod.fst) (hfits : Fits field)
    (hdid : field.1 = "did" → (did? field.2).isSome) :
    (Draft.ofFields init).add field = some (Draft.ofFields (init ++ [field])) := by
  obtain ⟨name, v⟩ := field
  have hself := lookup_concat_self hnew v
  have hnone := lookup_eq_none_of_not_mem hnew
  unfold Fits at hfits
  unfold Draft.add
  dsimp only at *
  split
  · obtain ⟨did, hdid⟩ := Option.isSome_iff_exists.1 (hdid rfl)
    simp [Draft.ofFields, hself, lookup_concat_of_ne, hnone, fresh?, hdid, knownKeys]
  · obtain ⟨name, hname⟩ := Option.isSome_iff_exists.1 hfits
    simp [Draft.ofFields, hself, lookup_concat_of_ne, hnone, fresh?, hname, knownKeys]
  · obtain ⟨description, hdescription⟩ := Option.isSome_iff_exists.1 hfits
    simp [Draft.ofFields, hself, lookup_concat_of_ne, hnone, fresh?, hdescription, knownKeys]
  · obtain ⟨access, haccess⟩ := Option.isSome_iff_exists.1 hfits
    simp [Draft.ofFields, hself, lookup_concat_of_ne, hnone, fresh?, haccess, knownKeys]
  · obtain ⟨dataType, hdataType⟩ := Option.isSome_iff_exists.1 hfits
    simp [Draft.ofFields, hself, lookup_concat_of_ne, hnone, fresh?, hdataType, knownKeys]
  · next hdid hname hdescription haccess hdataType =>
    have hother := notMem_knownKeys hdid hname hdescription haccess hdataType
    simp [Draft.ofFields, lookup_concat_of_ne, Ne.symm hdid, Ne.symm hname, Ne.symm hdescription,
      Ne.symm haccess, Ne.symm hdataType, hother]

/-- All fields of an entry are read, if the identifier is. -/
theorem foldlM_add (hdistinct : (fields.map Prod.fst).Nodup) (hfits : ∀ field ∈ fields, Fits field)
    (hdid : ∀ field ∈ fields, field.1 = "did" → (did? field.2).isSome) :
    fields.foldlM Draft.add {} = some (Draft.ofFields fields) := by
  induction fields using List.reverseRecOn with
  | nil => rfl
  | append_singleton init field ih =>
    rw [List.map_append, List.map_singleton, List.nodup_append_comm, List.singleton_append,
      List.nodup_cons] at hdistinct
    have hinit := ih hdistinct.2 (fun f hf => hfits f (by simp [hf]))
      (fun f hf => hdid f (by simp [hf]))
    have hstep := Draft.add_ofFields hdistinct.1 (hfits field (by simp)) (hdid field (by simp))
    rw [List.foldlM_append, hinit, Option.bind_eq_bind, Option.bind_some, List.foldlM_cons, hstep]
    rfl

/-- A field that is never read makes an entry fail. -/
theorem foldlM_eq_none_of_mem {σ α : Type} {f : σ → α → Option σ} {a : α}
    (hnone : ∀ s, f s a = none) {as : List α} (hmem : a ∈ as) (s : σ) : as.foldlM f s = none := by
  induction as generalizing s with
  | nil => simp at hmem
  | cons first rest ih =>
    rw [List.foldlM_cons]
    rcases List.mem_cons.1 hmem with rfl | hmem
    · rw [hnone]
      rfl
    · exact Option.bind_eq_none_iff.2 fun s' _ => ih hmem s'

/-! ### Entries -/

/-- The definition that the parts of an entry make. -/
def Draft.definition? (d : Draft) : Option Definition := do
  let did ← d.did
  let name ← d.name
  let description ← d.description
  let access ← d.access
  let dataType ← d.dataType
  let layout ← ValueLayout.ofMembers? d.others
  return ⟨did, name, description, access, dataType, layout⟩

/-- A part that is there is given. -/
theorem required_answers {α : Type} (field : String) (o : Option α) :
    (required field o).Answers o := by
  cases o with
  | none => exact answers_misfit _
  | some a => exact answers_pure a

/-- An entry is what its parts make. -/
theorem ofDraft_answers (d : Draft) : (ofDraft d).Answers d.definition? := by
  unfold ofDraft Draft.definition?
  refine (required_answers _ d.did).bind fun did _ => ?_
  refine (required_answers _ d.name).bind fun name _ => ?_
  refine (required_answers _ d.description).bind fun description _ => ?_
  refine (required_answers _ d.access).bind fun access _ => ?_
  refine (required_answers _ d.dataType).bind fun dataType _ => ?_
  cases ValueLayout.ofMembers? d.others with
  | none => exact answers_misfit _
  | some layout => exact answers_pure _

/-- The only value under a key is what is found there. -/
theorem only?_eq_lookup (hdistinct : (fields.map Prod.fst).Nodup) (key : String) :
    ValueLayout.only? key fields = fields.lookup key := by
  induction fields with
  | nil => rfl
  | cons m rest ih =>
    obtain ⟨name, v⟩ := m
    obtain ⟨hnew, hrest⟩ := List.nodup_cons.1 hdistinct
    by_cases hkey : name = key
    · subst hkey
      have hnone : rest.filter (·.1 = name) = [] := by
        rw [List.filter_eq_nil_iff]
        intro m hm
        simpa using fun heq : m.1 = name => hnew (List.mem_map.2 ⟨m, hm, heq⟩)
      simp [ValueLayout.only?, hnone]
    · have hskip := ih hrest
      rw [List.lookup_cons, beq_false_of_ne (Ne.symm hkey), ← hskip]
      simp [ValueLayout.only?, hkey]

/-- Members with known keys play no part in the layout. -/
theorem only?_others (hdistinct : (fields.map Prod.fst).Nodup) {key : String}
    (hkey : key ∉ knownKeys) :
    ValueLayout.only? key (fields.filter fun field => field.1 ∉ knownKeys) = fields.lookup key := by
  have hsame : (fields.filter fun field => field.1 ∉ knownKeys).filter (·.1 = key) =
      fields.filter (·.1 = key) := by
    rw [List.filter_filter]
    refine List.filter_congr fun field _ => ?_
    rw [Bool.eq_iff_iff]
    simp only [Bool.and_eq_true, decide_eq_true_eq, and_iff_left_iff_imp]
    rintro rfl
    exact hkey
  rw [← only?_eq_lookup hdistinct, ValueLayout.only?, hsame, ← ValueLayout.only?]

/-- Whether integers are of 64 bits, and those with a minus sign are not positive. -/
def IsWritten (v : Value) : Prop :=
  (∀ n, v = .plain (.natural n) → n < twoPower 64) ∧ ∀ n, v = .plain (.signed n) → n ≤ 0

/-- The data of a node are. -/
theorem isWritten_of_data {n : Yaml.Node} {v : Value} (h : n.data? = some v) : IsWritten v := by
  constructor
  · rintro k rfl
    obtain ⟨_, _, _, hfits, _⟩ := Spot.exists_unquoted h (by simp)
    exact of_decide_eq_true hfits
  · rintro k rfl
    obtain ⟨_, _, _, -, htext⟩ := Spot.exists_unquoted h (by simp)
    exact (Plain.integer?_of_ofText_signed htext).2

/-- A length is an integer from 0 to 2^64 - 1. -/
theorem bytes?_eq {v : Value} (h : IsWritten v) : ValueLayout.bytes? v =
    (v.integer?.filter fun n : Int => 0 ≤ n ∧ n < twoPower 64).map fun n => .ofNat n.toNat := by
  cases v with
  | plain p =>
    cases p with
    | natural n =>
      have hbound : 0 ≤ (n : Int) ∧ (n : Int) < twoPower 64 :=
        ⟨by omega, Int.ofNat_lt.2 (h.1 n rfl)⟩
      rw [Value.integer?, Option.filter_some, if_pos (decide_eq_true hbound)]
      rfl
    | signed n =>
      have hsign := h.2 n rfl
      rw [ValueLayout.bytes?, Value.integer?, Option.filter_some]
      by_cases hzero : n = 0
      · subst hzero
        rfl
      · have hneg : ¬ 0 ≤ n := by omega
        simp [hzero, hneg]
    | _ => rfl
  | sequence items => rfl
  | mapping members => rfl

/-- A number is read as the nearest double. -/
theorem double?_eq (v : Value) : ValueLayout.double? v = v.number? := by
  cases v with
  | plain p =>
    cases p with
    | natural n =>
      have hsign : ¬ (n : Int) < 0 := by omega
      simp [ValueLayout.double?, Value.number?, Value.integer?, Binary64.ofNat, hsign]
    | _ => rfl
  | sequence items => rfl
  | mapping members => rfl

/-- A conversion is read by the names of its parts. -/
theorem scaling?_ofFields {parts : List (String × Value)} (hdistinct : (parts.map Prod.fst).Nodup) :
    ValueLayout.scaling? (.ofFields parts) = do
      let factor ← (parts.lookup "factor").bind Value.number?
      let offset ← (parts.lookup "offset").bind Value.number?
      let unit ← (parts.lookup "unit").bind Value.text?
      return ⟨factor, offset, unit⟩ := by
  have hparts : (parts.map Value.ofField).mapM
      (fun m => (ValueLayout.partName? m.1).map (·, m.2)) = some parts := by
    have hsame : (fun m => (ValueLayout.partName? m.1).map (·, m.2)) ∘ Value.ofField = some := rfl
    rw [List.mapM_map, hsame, mapM_some]
  have hdouble : ValueLayout.double? = Value.number? := funext double?_eq
  have htext : ValueLayout.text? = Value.text? := rfl
  unfold ValueLayout.scaling? Value.ofFields
  simp only [hparts, Option.bind_eq_bind, Option.bind_some, only?_eq_lookup hdistinct, hdouble,
    htext, Option.bind_assoc]

/-- The layout among members is what they give. -/
theorem ofMembers?_others (hentry : IsEntry fields)
    (hwritten : ∀ field ∈ fields, IsWritten field.2) :
    ValueLayout.ofMembers? (fields.filter fun field => field.1 ∉ knownKeys) = layout? fields := by
  have hlength : (fields.lookup "length").bind ValueLayout.bytes? = length? fields := by
    cases hv : fields.lookup "length" with
    | none => simp [length?, hv]
    | some v =>
      have hmem := mem_of_lookup_eq_some hv
      simp [length?, hv, bytes?_eq (hwritten _ hmem)]
  have hconversion : (fields.lookup "scaling").bind ValueLayout.scaling? = conversion? fields := by
    cases hv : fields.lookup "scaling" with
    | none => simp [conversion?, hv]
    | some v =>
      obtain ⟨parts, rfl, hdistinct⟩ := hentry.scaling v hv
      simp [conversion?, hv, scaling?_ofFields hdistinct]
  rw [ValueLayout.ofMembers?, only?_others hentry.distinct (by decide),
    only?_others hentry.distinct (by decide), hlength, hconversion, layout?]
  cases length? fields <;> rfl

/-- Each member of an entry holds what its key is for. -/
theorem IsEntry.fits (h : IsEntry fields) {field : String × Value} (hmem : field ∈ fields) :
    Fits field := by
  -- no key occurs twice, so a member is what is found under its key
  have hfound : fields.lookup field.1 = some field.2 :=
    lookup_of_mem_of_nodup hmem h.distinct
  obtain ⟨name, v⟩ := field
  unfold Fits
  dsimp only at *
  split
  · obtain ⟨n, hn, -⟩ := h.did
    rw [hfound, Option.bind_some] at hn
    rw [hn]
    rfl
  · obtain ⟨text, htext⟩ := h.name
    obtain rfl := Option.some.inj (hfound.symm.trans htext)
    rfl
  · obtain ⟨text, htext⟩ := h.description
    obtain rfl := Option.some.inj (hfound.symm.trans htext)
    rfl
  · obtain ⟨level, htext⟩ := h.access
    obtain rfl := Option.some.inj (hfound.symm.trans htext)
    simp [Value.named?, Value.text?, AccessLevel.ofName?_name]
  · obtain ⟨type, htext⟩ := h.dataType
    obtain rfl := Option.some.inj (hfound.symm.trans htext)
    simp [Value.named?, Value.text?, DataType.ofName?_name]
  · trivial

/-- The members of an entry, read one by one, give the definition that they give together. -/
theorem foldlM_bind_definition? (hentry : IsEntry fields)
    (hwritten : ∀ field ∈ fields, IsWritten field.2) :
    (fields.foldlM Draft.add {}).bind Draft.definition? = ofFields? fields := by
  rcases hentry.did_cases with ⟨n, hdid, hn⟩ | ⟨n, hdid⟩
  · have hfits : fitsUnsigned 16 n = true := decide_eq_true hn
    have hread : ∀ field ∈ fields, field.1 = "did" → (did? field.2).isSome := by
      intro field hmem hkey
      have hfound := lookup_of_mem_of_nodup hmem hentry.distinct
      rw [hkey, hdid] at hfound
      rw [← Option.some.inj hfound, did?, if_pos hfits]
      rfl
    rw [foldlM_add hentry.distinct (fun _ => hentry.fits) hread, Option.bind_some,
      Draft.definition?, Draft.ofFields, ofMembers?_others hentry hwritten]
    rfl
  · -- the identifier has a minus sign
    have hnone : ∀ d : Draft, d.add ("did", .plain (.signed n)) = none := by
      intro d
      show (fresh? d.did none).bind _ = none
      unfold fresh?
      split <;> rfl
    rw [foldlM_eq_none_of_mem hnone (mem_of_lookup_eq_some hdid), ofFields?, hdid]
    rfl

/-- An entry is read as the definition that its members give, if they do. -/
theorem ofSpot_answers {s : Spot} (h : s.node.data? = some (.ofFields fields))
    (hdepth : (Value.ofFields fields).depth ≤ s.depth) (hentry : IsEntry fields) :
    (ofSpot s).Answers (ofFields? fields) := by
  have hlevels : 0 < s.depth := by
    rw [Value.ofFields, Value.depth] at hdepth
    omega
  obtain ⟨depth, hs⟩ := Nat.exists_eq_add_one.2 hlevels
  have hwritten : ∀ field ∈ fields, IsWritten field.2 := by
    intro field hmem
    obtain ⟨label, nodes, -, -, hnodes⟩ := Node.exists_mapping h
    obtain ⟨v, hv⟩ := Node.exists_of_mem hnodes (List.mem_map_of_mem hmem)
    exact isWritten_of_data hv
  rw [← foldlM_bind_definition? hentry hwritten]
  refine Spot.members_answers h hs (fun field hmem d key value hkey hvalue hlevel => ?_)
    ofDraft_answers _ _
  have hless := Value.depth_lt_ofFields hmem
  exact addMember_answers (hentry.fits hmem) d hkey hvalue (by omega)

/-! ### Documents -/

/-- The members of each entry of a document: of a mapping with one list of them. -/
def entries? (v : Value) : Option (List (List (String × Value))) := do
  match (← v.fields?).filter (·.1 = "dids") with
  | [(_, .sequence items)] => items.mapM Value.fields?
  | _ => none

/-- The entries of a document with one more section. -/
def addField (entries : Option (List Definition)) (field : String × Value) :
    Option (Option (List Definition)) :=
  if field.1 = "dids" then
    fresh? entries (match field.2 with
      | .sequence items => items.mapM fun v => v.fields?.bind ofFields?
      | _ => none)
  else some entries

/-- Sections of other names are passed over. -/
theorem foldlM_addField (sections : List (String × Value)) (entries : Option (List Definition)) :
    sections.foldlM addField entries =
      (sections.filter (·.1 = "dids")).foldlM addField entries := by
  induction sections generalizing entries with
  | nil => rfl
  | cons field rest ih =>
    by_cases hkey : field.1 = "dids"
    · simp [hkey, ih]
    · simp [hkey, ih, addField]

/-- The sections of a document are read, if the list of entries is. -/
theorem addSection_answers {sections : List (String × Value)}
    {entries : List (List (String × Value))}
    (hsections : sections.filter (·.1 = "dids") =
      [("dids", .sequence (entries.map Value.ofFields))])
    (h : ∀ fields ∈ entries, IsEntry fields) {field : String × Value} (hfield : field ∈ sections)
    (read : Option (List Definition)) {key value : Spot}
    (hkey : key.node.data? = some (.plain (.text field.1)))
    (hvalue : value.node.data? = some field.2) (hdepth : field.2.depth ≤ value.depth) :
    (addSection read key value).Answers (addField read field) := by
  unfold addSection
  refine (Spot.text_answers hkey _).andThen ?_
  unfold addField
  split
  · next hdids =>
    obtain rfl : field = ("dids", .sequence (entries.map Value.ofFields)) := by
      have hmem : field ∈ sections.filter (·.1 = "dids") :=
        List.mem_filter.2 ⟨hfield, decide_eq_true hdids⟩
      rw [hsections] at hmem
      exact List.mem_singleton.1 hmem
    dsimp only at hvalue hdepth ⊢
    have hlevels : 0 < value.depth := by
      rw [Value.depth] at hdepth
      omega
    obtain ⟨depth, hlevel⟩ := Nat.exists_eq_add_one.2 hlevels
    refine once_answers _ (Spot.items_answers hvalue hlevel fun v hv s hs hslevel => ?_)
    obtain ⟨fields, hfields, rfl⟩ := List.mem_map.1 hv
    have hless := Value.depth_lt_sequence hv
    rw [Value.fields?_ofFields, Option.bind_some]
    exact ofSpot_answers hs (by omega) (h fields hfields)
  · exact (Spot.skip_answers hvalue).andThen (answers_pure _)

/-- The list of a document is made of its entries. -/
theorem exists_items {v : Value} {entries : List (List (String × Value))}
    (h : entries? v = some entries) : ∃ sections, v = .ofFields sections ∧
      sections.filter (·.1 = "dids") = [("dids", .sequence (entries.map Value.ofFields))] := by
  obtain ⟨sections, hsections, hentries⟩ := Option.bind_eq_some_iff.1 h
  refine ⟨sections, Value.fields?_eq_some_iff.1 hsections, ?_⟩
  split at hentries
  · next key items hfilter =>
    have hkey : key = "dids" := by
      have hmem : (key, .sequence items) ∈ sections.filter (·.1 = "dids") := by simp [hfilter]
      simpa using (List.mem_filter.1 hmem).2
    have hitems : items = entries.map Value.ofFields := by
      rw [mapM_eq_some_iff fun v fields => Value.fields?_eq_some_iff] at hentries
      rwa [← List.forall₂_map_right_iff (R := (· = ·)), List.forall₂_eq_eq_eq] at hentries
    rw [hfilter, hkey, hitems]
  · cases hentries

/-- A document is read as the definitions that its entries give, if each of them gives one. -/
theorem toOption_listOfYaml {text : String} {v : Value} (hv : (Document.ofText text).data? = some v)
    {entries : List (List (String × Value))} (hentries : entries? v = some entries)
    (h : ∀ fields ∈ entries, IsEntry fields) :
    (listOfYaml text).toOption = entries.mapM ofFields? := by
  obtain ⟨hdata, hdepth⟩ := Option.filter_eq_some_iff.1 hv
  obtain ⟨sections, rfl, hsections⟩ := exists_items hentries
  obtain ⟨honly, hroot⟩ := Option.ite_none_right_eq_some.1 hdata
  -- there is one section, so the fold over sections is one reading of the entries
  have hread : (sections.foldlM addField none).bind (fun read => some (read.getD [])) =
      entries.mapM ofFields? := by
    have hlist : (entries.map Value.ofFields).mapM (fun v => v.fields?.bind ofFields?) =
        entries.mapM ofFields? := by
      rw [List.mapM_map]
      congr 1
      funext fields
      simp
    rw [foldlM_addField, hsections, List.foldlM_cons, addField, if_pos rfl]
    dsimp only
    rw [hlist]
    cases entries.mapM ofFields? <;> rfl
  rw [← hread]
  refine Document.toOption_read honly (Spot.members_answers hroot rfl
    (fun field hfield read key value hkey hvalue hlevel => ?_) (fun read => answers_pure _) _ _)
  have hless := Value.depth_lt_ofFields hfield
  have hlimit : (Value.ofFields sections).depth ≤ 128 := of_decide_eq_true hdepth
  refine addSection_answers hsections h hfield read hkey hvalue ?_
  rw [hlevel]
  omega

/-- Of a document whose entries say everything but their layout, each entry must be written without
    a minus sign before its identifier and give a length or a conversion.  Then each is read as what
    its members say, where the length counts if both are given, whatever other members there are.
    The same is read if members come in another order, and if those of conversions do. -/
theorem listOfYaml_by_members {text : String} {v : Value}
    (hv : (Document.ofText text).data? = some v) {entries : List (List (String × Value))}
    (hentries : entries? v = some entries) (h : ∀ fields ∈ entries, IsEntry fields) :
    ((∃ definitions, listOfYaml text = .ok definitions) ↔
      ∀ fields ∈ entries, (∃ n, fields.lookup "did" = some (.plain (.natural n))) ∧
        ((length? fields).isSome ∨ (conversion? fields).isSome)) ∧
    (∀ definitions, listOfYaml text = .ok definitions →
      List.Forall₂ Describes entries definitions) ∧
    ∀ text' v' entries', (Document.ofText text').data? = some v' → entries? v' = some entries' →
      List.Forall₂ Reordered entries entries' →
        (listOfYaml text').toOption = (listOfYaml text).toOption := by
  have hread := toOption_listOfYaml hv hentries h
  refine ⟨?_, fun definitions hdefinitions => ?_, fun text' v' entries' hv' hentries' hsame => ?_⟩
  · have hok : (∃ definitions, listOfYaml text = .ok definitions) ↔
        (listOfYaml text).toOption.isSome := by
      simp only [Option.isSome_iff_exists, toOption_eq_some_iff]
    rw [hok, hread, isSome_mapM]
    exact forall₂_congr fun fields hfields => isSome_ofFields? (h fields hfields)
  · rw [toOption_eq_some_iff.2 hdefinitions] at hread
    exact describes_of_mapM_ofFields? h hread.symm
  · obtain ⟨h', hentries⟩ := mapM_ofFields?_reordered h hsame
    rw [hread, toOption_listOfYaml hv' hentries' h', hentries]

/-- For one, a length below zero makes room for a conversion, in whatever order they come. -/
theorem listOfYaml_by_members_fallback :
    let text := "dids:\n- did: 1\n  name: n\n  description: d\n  access: public\n" ++
      "  data_type: int8\n  length: -4\n  scaling:\n    factor: 2\n    offset: 0.5\n    unit: V\n"
    let text' := "dids:\n- scaling:\n    unit: V\n    factor: 2\n    offset: 0.5\n  length: -4\n" ++
      "  name: n\n  did: 1\n  access: public\n  data_type: int8\n  description: d\n"
    let half := Binary64.ofDecimal false 5 (-1)
    let did := ("did", Value.plain (.natural 1))
    let name := ("name", Value.plain (.text "n"))
    let description := ("description", Value.plain (.text "d"))
    let access := ("access", Value.plain (.text "public"))
    let type := ("data_type", Value.plain (.text "int8"))
    let length := ("length", Value.plain (.signed (-4)))
    let factor := ("factor", Value.plain (.natural 2))
    let offset := ("offset", Value.plain (.double half))
    let unit := ("unit", Value.plain (.text "V"))
    let scaling := ("scaling", Value.ofFields [factor, offset, unit])
    let scaling' := ("scaling", Value.ofFields [unit, factor, offset])
    let entry := [did, name, description, access, type, length, scaling]
    let entry' := [scaling', length, name, did, access, type, description]
    let document (entry : List (String × Value)) :=
      Value.ofFields [("dids", .sequence [.ofFields entry])]
    ((Document.ofText text).data? = some (document entry) ∧
      entries? (document entry) = some [entry] ∧ (∀ fields ∈ [entry], IsEntry fields) ∧
      (Document.ofText text').data? = some (document entry') ∧
      entries? (document entry') = some [entry'] ∧
      List.Forall₂ Reordered [entry] [entry']) ∧
    (∃ definitions, listOfYaml text = .ok definitions ∧
      List.Forall₂ Describes [entry] definitions) ∧
    (listOfYaml text').toOption = (listOfYaml text).toOption := by
  intro text text' half did name description access type length factor offset unit scaling scaling'
    entry entry' document
  have hv : (Document.ofText text).data? = some (document entry) := by decide +kernel
  have hv' : (Document.ofText text').data? = some (document entry') := by decide +kernel
  have hentries : entries? (document entry) = some [entry] := by decide +kernel
  have hentries' : entries? (document entry') = some [entry'] := by decide +kernel
  have hentry : IsEntry entry :=
    { distinct := by decide
      did := ⟨1, rfl, by decide, by decide⟩
      name := ⟨_, rfl⟩
      description := ⟨_, rfl⟩
      access := ⟨.anySession, rfl⟩
      dataType := ⟨.int8, rfl⟩
      scaling := fun v hv => ⟨_, (Option.some.inj hv).symm, by decide⟩ }
  have hreordered : Reordered entry entry' :=
    ⟨[scaling, length, name, did, access, type, description], by decide +kernel,
      .cons (.scaling (by decide)) (List.forall₂_same.2 fun m _ => .refl m)⟩
  have hall : ∀ fields ∈ [entry], IsEntry fields := by simpa using hentry
  have hsame : List.Forall₂ Reordered [entry] [entry'] := .cons hreordered .nil
  obtain ⟨hiff, hdescribes, horder⟩ := listOfYaml_by_members hv hentries hall
  have hgiven : ∀ fields ∈ [entry], (∃ n, fields.lookup "did" = some (.plain (.natural n))) ∧
      ((length? fields).isSome ∨ (conversion? fields).isSome) := by
    rintro fields hfields
    obtain rfl := List.mem_singleton.1 hfields
    exact ⟨⟨1, rfl⟩, .inr (by decide +kernel)⟩
  obtain ⟨definitions, hdefinitions⟩ := hiff.2 hgiven
  exact ⟨⟨hv, hentries, hall, hv', hentries', hsame⟩,
    ⟨definitions, hdefinitions, hdescribes definitions hdefinitions⟩,
    horder text' _ _ hv' hentries' hsame⟩

/-- An identifier that is zero with a minus sign is refused, though it is an integer of 16 bits and
    a length is given. -/
theorem listOfYaml_negative_zero :
    let text := "dids:\n  - did: -0\n    name: n\n    description: d\n    access: public\n" ++
      "    data_type: ascii\n    length: 4\n"
    let entry := [("did", Value.plain (.signed 0)), ("name", .plain (.text "n")),
      ("description", .plain (.text "d")), ("access", .plain (.text "public")),
      ("data_type", .plain (.text "ascii")), ("length", .plain (.natural 4))]
    let document := Value.ofFields [("dids", .sequence [.ofFields entry])]
    (Document.ofText text).data? = some document ∧ entries? document = some [entry] ∧
      IsEntry entry ∧ (length? entry).isSome ∧
      ∀ definitions, listOfYaml text ≠ .ok definitions := by
  intro text entry document
  have hv : (Document.ofText text).data? = some document := by decide +kernel
  have hentries : entries? document = some [entry] := by decide +kernel
  have hentry : IsEntry entry :=
    { distinct := by decide
      did := ⟨0, rfl, by decide, by decide⟩
      name := ⟨_, rfl⟩
      description := ⟨_, rfl⟩
      access := ⟨.anySession, rfl⟩
      dataType := ⟨.ascii, rfl⟩
      scaling := fun v hv => nomatch hv }
  refine ⟨hv, hentries, hentry, by decide, fun definitions hdefinitions => ?_⟩
  have hread := toOption_listOfYaml hv hentries (by simpa using hentry)
  rw [toOption_eq_some_iff.2 hdefinitions] at hread
  cases hread

end SovdConfig.Definition
