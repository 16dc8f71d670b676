import SovdConfig.Proofs.Attempt
import SovdConfig.Proofs.Yaml.Decoding

namespace SovdConfig.Yaml

/-!
# Reading data

What the typed readers make of a node without tags and aliases depends on its data only: not on
marks and anchors, and not on where it stands.  Main definitions:

* `Reading.Answers` — what a reading gives, or that it fails, wherever it is done;
* `Node.data?`, `Document.data?` — the data of a node, and of a document;
* `Value.depth` — how deep collections are nested in data;
* `Value.ofFields`, `Value.fields?` — mappings with texts as keys.

Main statements:

* `Spot.text_answers`, `Spot.word_answers_natural`, `Spot.word_answers_signed`,
  `Spot.variant_answers`, `Spot.value_answers` — single values;
* `Spot.items_answers`, `Spot.members_answers` — collections, part by part;
* `Document.toOption_read` — whole documents.
-/

/-! ### Readings that may fail -/

namespace Reading

variable {α β : Type} {r : Reading α} {o : Option α}

/-- Whether a reading gives a value without following an alias or, if there is none, fails. -/
def Answers (r : Reading α) (o : Option α) : Prop :=
  ∀ anchors count, (r anchors count).toOption = o.map (·, count)

/-- A value answers as it is. -/
theorem answers_pure (a : α) : (pure a : Reading α).Answers (some a) := fun _ _ => rfl

/-- A mismatch is no value. -/
theorem answers_misfit (reason : Mismatch) : (misfit reason : Reading α).Answers none :=
  fun _ _ => rfl

/-- One reading follows the other, if there is a value. -/
theorem Answers.bind (h : r.Answers o) {f : α → Reading β} {g : α → Option β}
    (hf : ∀ a, o = some a → (f a).Answers (g a)) : (r >>= f).Answers (o.bind g) :=
  fun anchors count => by
  show (r anchors count >>= fun p => f p.1 anchors p.2).toOption = _
  rw [toOption_bind, h anchors count]
  cases o with
  | none => rfl
  | some a => exact hf a rfl anchors count

/-- One reading follows another one that does not fail. -/
theorem Answers.andThen {a : α} (h : r.Answers (some a)) {f : α → Reading β} {o' : Option β}
    (hf : (f a).Answers o') : (r >>= f).Answers o' :=
  h.bind (g := fun _ => o') fun _ heq => Option.some.inj heq ▸ hf

/-- A function is applied to the value. -/
theorem Answers.map (h : r.Answers o) (f : α → β) : (f <$> r).Answers (o.map f) := by
  rw [← bind_pure_comp, Option.map_eq_bind]
  exact h.bind fun a _ => answers_pure (f a)

/-- A position changes the failure only. -/
theorem Answers.located (h : r.Answers o) (p : Position) : (r.located p).Answers o :=
  fun anchors count => by
  rw [← h anchors count, Reading.located]
  cases r anchors count <;> rfl

end Reading

/-! ### Data -/

/-- Whether an integer has 64 bits. -/
def Plain.fits : Plain → Bool
  | natural n => fitsUnsigned 64 n
  | signed n => fitsSigned 64 n
  | _ => true

mutual

/-- The data of a node without tags, aliases and integers of more than 64 bits. -/
def Node.data? : Node → Option Value
  | .scalar label text style =>
    let p := if style = .plain then Plain.ofText text else .text text
    if label.tag.isNone ∧ p.fits then some (.plain p) else none
  | .sequence label items => if label.tag.isNone then (dataAll? items).map .sequence else none
  | .mapping label members => if label.tag.isNone then (dataMembers? members).map .mapping else none
  | .reference .. => none
  | .broken => none

/-- The data of nodes. -/
def Node.dataAll? : List Node → Option (List Value)
  | [] => some []
  | n :: rest => n.data?.bind fun v => (dataAll? rest).map (v :: ·)

/-- The data of members. -/
def Node.dataMembers? : List (Node × Node) → Option (List (Value × Value))
  | [] => some []
  | (k, v) :: rest =>
    k.data?.bind fun key => v.data?.bind fun value => (dataMembers? rest).map ((key, value) :: ·)

end

mutual

/-- How deep collections are nested in data. -/
def Value.depth : Value → Nat
  | .plain _ => 0
  | .sequence items => 1 + depthAll items
  | .mapping members => 1 + depthMembers members

/-- How deep collections are nested in items. -/
def Value.depthAll : List Value → Nat
  | [] => 0
  | v :: rest => max v.depth (depthAll rest)

/-- How deep collections are nested in members. -/
def Value.depthMembers : List (Value × Value) → Nat
  | [] => 0
  | (k, v) :: rest => max (max k.depth v.depth) (depthMembers rest)

end

namespace Value

mutual

/-- Data can be told apart. -/
def decEq : (v w : Value) → Decidable (v = w)
  | plain p, plain q => decidable_of_iff (p = q) (by simp)
  | sequence a, sequence b =>
    match decEqAll a b with
    | isTrue h => isTrue (h ▸ rfl)
    | isFalse h => isFalse fun heq => h (sequence.inj heq)
  | mapping a, mapping b =>
    match decEqMembers a b with
    | isTrue h => isTrue (h ▸ rfl)
    | isFalse h => isFalse fun heq => h (mapping.inj heq)
  | plain _, sequence _ | plain _, mapping _ | sequence _, plain _ | sequence _, mapping _
  | mapping _, plain _ | mapping _, sequence _ => isFalse nofun

/-- So can lists of data. -/
def decEqAll : (vs ws : List Value) → Decidable (vs = ws)
  | [], [] => isTrue rfl
  | v :: vs, w :: ws =>
    match decEq v w, decEqAll vs ws with
    | isTrue h, isTrue h' => isTrue (h ▸ h' ▸ rfl)
    | isFalse h, _ => isFalse fun heq => h (List.cons.inj heq).1
    | _, isFalse h => isFalse fun heq => h (List.cons.inj heq).2
  | [], _ :: _ | _ :: _, [] => isFalse nofun

/-- So can members. -/
def decEqMembers : (ms ns : List (Value × Value)) → Decidable (ms = ns)
  | [], [] => isTrue rfl
  | (k, v) :: ms, (l, w) :: ns =>
    match decEq k l, decEq v w, decEqMembers ms ns with
    | isTrue h, isTrue h', isTrue h'' => isTrue (h ▸ h' ▸ h'' ▸ rfl)
    | isFalse h, _, _ => isFalse fun heq => h (Prod.mk.inj (List.cons.inj heq).1).1
    | _, isFalse h, _ => isFalse fun heq => h (Prod.mk.inj (List.cons.inj heq).1).2
    | _, _, isFalse h => isFalse fun heq => h (List.cons.inj heq).2
  | [], _ :: _ | _ :: _, [] => isFalse nofun

end

instance : DecidableEq Value := decEq

/-- Collections are not nested deeper in an item. -/
theorem depth_le_depthAll {v : Value} {items : List Value} (h : v ∈ items) :
    v.depth ≤ depthAll items := by
  induction items with
  | nil => simp at h
  | cons w rest ih =>
    rw [depthAll]
    rcases List.mem_cons.1 h with rfl | h
    · exact Nat.le_max_left _ _
    · exact Nat.le_trans (ih h) (Nat.le_max_right _ _)

/-- Nor are they in a member. -/
theorem depth_le_depthMembers {m : Value × Value} {members : List (Value × Value)}
    (h : m ∈ members) : m.1.depth ≤ depthMembers members ∧ m.2.depth ≤ depthMembers members := by
  induction members with
  | nil => simp at h
  | cons first rest ih =>
    rw [depthMembers]
    rcases List.mem_cons.1 h with rfl | h
    · omega
    · have := ih h
      omega

/-- A member with a text as its key. -/
def ofField (field : String × Value) : Value × Value := (plain (.text field.1), field.2)

/-- A mapping with texts as keys. -/
def ofFields (fields : List (String × Value)) : Value := mapping (fields.map ofField)

/-- The text of data that is a text. -/
def text? : Value → Option String
  | plain (.text s) => some s
  | _ => none

/-- The members of a mapping all of whose keys are texts, by their keys. -/
def fields? : Value → Option (List (String × Value))
  | mapping members => members.mapM fun (k, v) => k.text?.map (·, v)
  | _ => none

/-- Data that is a text is nothing else. -/
theorem text?_eq_some_iff {v : Value} {s : String} : v.text? = some s ↔ v = plain (.text s) := by
  constructor
  · intro h
    unfold text? at h
    split at h
    · exact congrArg (fun s => plain (.text s)) (Option.some.inj h)
    · cases h
  · rintro rfl
    rfl

/-- A mapping has texts as keys if it is made of its fields. -/
theorem fields?_eq_some_iff {v : Value} {fields : List (String × Value)} :
    v.fields? = some fields ↔ v = ofFields fields := by
  have hmember (m : Value × Value) (field : String × Value) :
      m.1.text?.map (·, m.2) = some field ↔ m = ofField field := by
    simp only [Option.map_eq_some_iff, text?_eq_some_iff, ofField, Prod.ext_iff]
    constructor
    · rintro ⟨key, hkey, rfl, hv⟩
      exact ⟨hkey, hv⟩
    · rintro ⟨hkey, hv⟩
      exact ⟨_, hkey, rfl, hv⟩
  have hmembers (members : List (Value × Value)) :
      members.mapM (fun (k, v) => k.text?.map (·, v)) = some fields ↔
        members = fields.map ofField := by
    rw [mapM_eq_some_iff hmember, ← List.forall₂_map_right_iff (R := (· = ·)),
      List.forall₂_eq_eq_eq]
  cases v with
  | plain p => simp [fields?, ofFields]
  | sequence items => simp [fields?, ofFields]
  | mapping members => simp only [fields?, ofFields, hmembers, mapping.injEq]

/-- Fields are found again. -/
@[simp] theorem fields?_ofFields (fields : List (String × Value)) :
    (ofFields fields).fields? = some fields :=
  fields?_eq_some_iff.2 rfl

/-- Different fields make different mappings. -/
theorem ofFields_inj {fields fields' : List (String × Value)} :
    ofFields fields = ofFields fields' ↔ fields = fields' := by
  rw [← fields?_eq_some_iff, fields?_ofFields, Option.some.injEq]

/-- Collections are nested deeper in a list than in its items. -/
theorem depth_lt_sequence {v : Value} {items : List Value} (h : v ∈ items) :
    v.depth < (sequence items).depth := by
  have := depth_le_depthAll h
  rw [Value.depth]
  omega

/-- They are nested deeper in a mapping than in its fields. -/
theorem depth_lt_ofFields {field : String × Value} {fields : List (String × Value)}
    (h : field ∈ fields) : field.2.depth < (ofFields fields).depth := by
  have := (depth_le_depthMembers (List.mem_map_of_mem h : ofField field ∈ fields.map ofField)).2
  rw [ofFields, Value.depth]
  exact Nat.lt_of_le_of_lt this (by omega)

end Value

/-- The data of a text that holds one document, if collections are not nested too deep in it. -/
def Document.data? (d : Document) : Option Value :=
  (if d.isOnly then d.root.data? else none).filter (·.depth ≤ Document.nestingLimit)

/-! ### Nodes and their data -/

namespace Node

/-- Data without parts are those of a scalar. -/
theorem exists_scalar {n : Node} {p : Plain} (h : n.data? = some (.plain p)) :
    ∃ label text style, n = .scalar label text style ∧ label.tag = none ∧ p.fits = true ∧
      p = if style = .plain then Plain.ofText text else .text text := by
  cases n with
  | scalar label text style =>
    simp only [data?, Option.isNone_iff_eq_none, Option.ite_none_right_eq_some,
      Option.some.injEq, Value.plain.injEq] at h
    obtain ⟨⟨htag, hfits⟩, rfl⟩ := h
    exact ⟨label, text, style, rfl, htag, hfits, rfl⟩
  | sequence label items => simp [data?] at h
  | mapping label members => simp [data?] at h
  | reference mark anchor => cases h
  | broken => cases h

/-- A list of data is that of a sequence. -/
theorem exists_sequence {n : Node} {items : List Value} (h : n.data? = some (.sequence items)) :
    ∃ label nodes, n = .sequence label nodes ∧ label.tag = none ∧ dataAll? nodes = some items := by
  cases n with
  | scalar label text style => simp [data?] at h
  | sequence label nodes =>
    simp only [data?, Option.isNone_iff_eq_none, Option.ite_none_right_eq_some,
      Option.map_eq_some_iff, Value.sequence.injEq] at h
    obtain ⟨htag, _, hnodes, rfl⟩ := h
    exact ⟨label, nodes, rfl, htag, hnodes⟩
  | mapping label members => simp [data?] at h
  | reference mark anchor => cases h
  | broken => cases h

/-- Members are those of a mapping. -/
theorem exists_mapping {n : Node} {members : List (Value × Value)}
    (h : n.data? = some (.mapping members)) :
    ∃ label nodes, n = .mapping label nodes ∧ label.tag = none ∧
      dataMembers? nodes = some members := by
  cases n with
  | scalar label text style => simp [data?] at h
  | sequence label items => simp [data?] at h
  | mapping label nodes =>
    simp only [data?, Option.isNone_iff_eq_none, Option.ite_none_right_eq_some,
      Option.map_eq_some_iff, Value.mapping.injEq] at h
    obtain ⟨htag, _, hnodes, rfl⟩ := h
    exact ⟨label, nodes, rfl, htag, hnodes⟩
  | reference mark anchor => cases h
  | broken => cases h

/-- The data of some nodes are those of the first and of the others. -/
theorem dataAll?_cons {n : Node} {rest : List Node} {values : List Value}
    (h : dataAll? (n :: rest) = some values) :
    ∃ v more, values = v :: more ∧ n.data? = some v ∧ dataAll? rest = some more := by
  obtain ⟨v, hv, hrest⟩ := Option.bind_eq_some_iff.1 h
  obtain ⟨more, hmore, rfl⟩ := Option.map_eq_some_iff.1 hrest
  exact ⟨v, more, rfl, hv, hmore⟩

/-- The data of some members are those of the first and of the others. -/
theorem dataMembers?_cons {k v : Node} {rest : List (Node × Node)} {members : List (Value × Value)}
    (h : dataMembers? ((k, v) :: rest) = some members) :
    ∃ key value more, members = (key, value) :: more ∧ k.data? = some key ∧ v.data? = some value ∧
      dataMembers? rest = some more := by
  obtain ⟨key, hkey, hmember⟩ := Option.bind_eq_some_iff.1 h
  obtain ⟨value, hvalue, hrest⟩ := Option.bind_eq_some_iff.1 hmember
  obtain ⟨more, hmore, rfl⟩ := Option.map_eq_some_iff.1 hrest
  exact ⟨key, value, more, rfl, hkey, hvalue, hmore⟩

/-- Each member of some data is that of a node. -/
theorem exists_of_mem {nodes : List (Node × Node)} {members : List (Value × Value)}
    (h : dataMembers? nodes = some members) {m : Value × Value} (hm : m ∈ members) :
    ∃ v : Node, v.data? = some m.2 := by
  induction nodes generalizing members with
  | nil =>
    obtain rfl : [] = members := Option.some.inj h
    simp at hm
  | cons first rest ih =>
    obtain ⟨key, value, more, rfl, -, hvalue, hmore⟩ := dataMembers?_cons h
    rcases List.mem_cons.1 hm with rfl | hm
    · exact ⟨first.2, hvalue⟩
    · exact ih hmore hm

mutual

/-- A node with data is well-formed. -/
theorem isWhole_of_data {n : Node} {v : Value} (h : n.data? = some v) : n.isWhole = true := by
  cases n with
  | scalar label text style => rfl
  | sequence label items =>
    simp only [data?, Option.ite_none_right_eq_some, Option.map_eq_some_iff] at h
    obtain ⟨-, values, hitems, -⟩ := h
    exact areWhole_of_data hitems
  | mapping label members =>
    simp only [data?, Option.ite_none_right_eq_some, Option.map_eq_some_iff] at h
    obtain ⟨-, values, hmembers, -⟩ := h
    exact areWholeMembers_of_data hmembers
  | reference mark anchor => cases h
  | broken => cases h

/-- So are nodes with data. -/
theorem areWhole_of_data {nodes : List Node} {values : List Value}
    (h : dataAll? nodes = some values) : areWhole nodes = true := by
  cases nodes with
  | nil => rfl
  | cons n rest =>
    obtain ⟨v, more, -, hv, hmore⟩ := dataAll?_cons h
    rw [areWhole, isWhole_of_data hv, areWhole_of_data hmore]
    rfl

/-- So are members with data. -/
theorem areWholeMembers_of_data {nodes : List (Node × Node)} {members : List (Value × Value)}
    (h : dataMembers? nodes = some members) : areWholeMembers nodes = true := by
  cases nodes with
  | nil => rfl
  | cons m rest =>
    obtain ⟨key, value, more, -, hkey, hvalue, hmore⟩ := dataMembers?_cons h
    rw [areWholeMembers, isWhole_of_data hkey, isWhole_of_data hvalue,
      areWholeMembers_of_data hmore]
    rfl

end

end Node

/-! ### What texts stand for -/

namespace Plain

/-- An integer is read without a minus sign or with one. -/
theorem integer?_cases {cs : List Char} {p : Plain} (h : integer? cs = some p) :
    (∃ n, p = .natural n) ∨ ∃ n : Nat, p = .signed (-(n : Int)) := by
  unfold integer? at h
  split at h
  · obtain ⟨n, hn, rfl⟩ := Option.map_eq_some_iff.1 h
    obtain ⟨m, -, hm⟩ := Option.bind_eq_some_iff.1 (Option.filter_eq_some_iff.1 hn).1
    obtain rfl : (m : Int) = n := Option.some.inj hm
    exact .inr ⟨m, rfl⟩
  · obtain ⟨n, -, rfl⟩ := Option.map_eq_some_iff.1 h
    exact .inl ⟨n, rfl⟩
  · obtain ⟨n, -, rfl⟩ := Option.map_eq_some_iff.1 h
    exact .inl ⟨n, rfl⟩

/-- A text stands for an integer if it denotes one, for itself, or for something else. -/
theorem ofText_cases (text : String) :
    integer? text.toList = some (ofText text) ∨ ofText text = .text text ∨
      ofText text = .nothing ∨ (∃ b, ofText text = .boolean b) ∨ ∃ x, ofText text = .double x := by
  unfold ofText
  split
  · exact .inr (.inr (.inl rfl))
  · split
    · exact .inr (.inr (.inr (.inl ⟨_, rfl⟩)))
    · split
      · next hinteger => exact .inl hinteger
      · split
        · exact .inr (.inl rfl)
        · split
          · exact .inr (.inr (.inr (.inr ⟨_, rfl⟩)))
          · exact .inr (.inl rfl)

/-- Only a text that stands for itself stands for a text. -/
theorem eq_of_ofText_eq_text {text s : String} (h : ofText text = .text s) : text = s := by
  rcases ofText_cases text with hinteger | htext | hnothing | ⟨b, hboolean⟩ | ⟨x, hdouble⟩
  · rcases integer?_cases hinteger with ⟨n, hn⟩ | ⟨n, hn⟩ <;> simp [h] at hn
  all_goals simp_all

/-- Only a text that denotes an integer stands for one without a minus sign. -/
theorem integer?_of_ofText_natural {text : String} {n : Nat} (h : ofText text = .natural n) :
    integer? text.toList = some (.natural n) := by
  rcases ofText_cases text with hinteger | htext | hnothing | ⟨b, hboolean⟩ | ⟨x, hdouble⟩
  · rwa [h] at hinteger
  all_goals simp_all

/-- The same with a minus sign. -/
theorem integer?_of_ofText_signed {text : String} {n : Int} (h : ofText text = .signed n) :
    integer? text.toList = some (.signed n) ∧ n ≤ 0 := by
  rcases ofText_cases text with hinteger | htext | hnothing | ⟨b, hboolean⟩ | ⟨x, hdouble⟩
  · rw [h] at hinteger
    refine ⟨hinteger, ?_⟩
    rcases integer?_cases hinteger with ⟨k, hk⟩ | ⟨k, hk⟩
    · cases hk
    · obtain rfl := Plain.signed.inj hk
      omega
  all_goals simp_all

end Plain

/-! ### Typed readers -/

open Reading

namespace Spot

variable {α : Type} {s : Spot}

/-- A node with data is read where it stands. -/
theorem reading_answers {v : Value} (h : s.node.data? = some v) {read : Spot → Reading α}
    {o : Option α} (hread : (read s).Answers o) : (s.reading read).Answers o := by
  obtain ⟨node, route, depth⟩ := s
  cases node with
  | scalar label text style => exact hread.located _
  | sequence label items => exact hread.located _
  | mapping label members => exact hread.located _
  | reference mark anchor => cases h
  | broken => cases h

/-- A node of another kind is no value. -/
theorem otherKind_answers (s : Spot) (expected : String) :
    (s.otherKind expected : Reading α).Answers none := by
  intro anchors count
  unfold otherKind
  cases found s.node <;> rfl

/-- A text is the contents of a scalar, whatever its style. -/
theorem exists_text {n : Node} {content : String} (h : n.data? = some (.plain (.text content))) :
    ∃ label style, n = .scalar label content style ∧ label.tag = none := by
  obtain ⟨label, text, style, rfl, htag, -, hp⟩ := Node.exists_scalar h
  obtain rfl : text = content := by
    split at hp
    · exact Plain.eq_of_ofText_eq_text hp.symm
    · exact (Plain.text.inj hp).symm
  exact ⟨label, style, rfl, htag⟩

/-- A text is read as it is. -/
theorem text_answers {content : String} (h : s.node.data? = some (.plain (.text content)))
    (expected : String) : (s.text expected).Answers (some content) := by
  refine reading_answers h ?_
  obtain ⟨label, style, hnode, -⟩ := exists_text h
  rw [hnode]
  exact answers_pure content

/-- What is no text is read from a scalar without quotes. -/
theorem exists_unquoted {n : Node} {p : Plain} (h : n.data? = some (.plain p))
    (hp : ∀ content, p ≠ .text content) : ∃ label text, n = .scalar label text .plain ∧
      p.fits = true ∧ Plain.ofText text = p := by
  obtain ⟨label, text, style, rfl, -, hfits, htext⟩ := Node.exists_scalar h
  split at htext
  · next hstyle => exact ⟨label, text, by rw [hstyle], hfits, htext.symm⟩
  · exact absurd htext (hp text)

/-- An integer without a minus sign is read if it has 16 bits. -/
theorem word_answers_natural {n : Nat} (h : s.node.data? = some (.plain (.natural n))) :
    s.word.Answers (if fitsUnsigned 16 n then some (.ofNat n) else none) := by
  refine reading_answers h ?_
  obtain ⟨label, text, hnode, hfits, htext⟩ := exists_unquoted h (by simp)
  have hword : Plain.word? text = some n := by
    rw [Plain.word?, Plain.integer?_of_ofText_natural htext]
    exact if_pos hfits
  have hfound : (Plain.word? text).filter (fun _ => true) = some n := by rw [hword]; rfl
  simp only [hnode, mayBeInteger, decide_true, Bool.true_or, hfound]
  split
  · exact answers_pure _
  · exact answers_misfit _

/-- An integer with a minus sign is not read, even if it is zero. -/
theorem word_answers_signed {n : Int} (h : s.node.data? = some (.plain (.signed n))) :
    s.word.Answers none := by
  refine reading_answers h ?_
  obtain ⟨label, text, hnode, -, htext⟩ := exists_unquoted h (by simp)
  have hword : Plain.word? text = none := by
    rw [Plain.word?, (Plain.integer?_of_ofText_signed htext).1]
  have hfound : (Plain.word? text).filter (fun _ => true) = none := by rw [hword]; rfl
  simp only [hnode, mayBeInteger, decide_true, Bool.true_or, hfound]
  exact otherKind_answers _ _

/-- A node with data has no tag. -/
theorem tagOf_of_data {n : Node} {v : Value} (h : n.data? = some v) : tagOf n = none := by
  cases n with
  | scalar label text style =>
    simp only [Node.data?, Option.isNone_iff_eq_none, Option.ite_none_right_eq_some] at h
    exact h.1.1
  | sequence label items =>
    simp only [Node.data?, Option.isNone_iff_eq_none, Option.ite_none_right_eq_some] at h
    exact h.1
  | mapping label members =>
    simp only [Node.data?, Option.isNone_iff_eq_none, Option.ite_none_right_eq_some] at h
    exact h.1
  | reference mark anchor => cases h
  | broken => cases h

/-- A value of an enumeration is read by its name. -/
theorem variant_answers {content : String} (h : s.node.data? = some (.plain (.text content)))
    {ofName? : String → Option α} {a : α} (ha : ofName? content = some a) (known : List String) :
    (s.variant ofName? known).Answers (some a) := by
  obtain ⟨label, style, hnode, htag⟩ := exists_text h
  have hown : ownTag? (tagOf s.node) = none := by
    rw [tagOf_of_data h]
    rfl
  unfold variant
  simp only [hnode] at hown ⊢
  rw [hown]
  refine reading_answers h ?_
  simp only [hnode, named, ha]
  exact answers_pure a

/-! ### Collections -/

/-- The levels that are left inside a collection. -/
theorem entered_answers {depth : Nat} (h : s.depth = depth + 1) :
    s.entered.Answers (some depth) := by
  rw [entered, h]
  exact answers_pure depth

/-- Items are read one by one, until one fails. -/
theorem readItems_answers {read : Spot → Reading α} {f : Value → Option α} {depth : Nat}
    {nodes : List Node} {items : List Value} (hnodes : Node.dataAll? nodes = some items)
    (hread : ∀ v ∈ items, ∀ s : Spot, s.node.data? = some v → s.depth = depth →
      (read s).Answers (f v)) (route : Route) (index : Nat) :
    (readItems route depth read index nodes).Answers (items.mapM f) := by
  induction nodes generalizing items index with
  | nil =>
    obtain rfl : [] = items := Option.some.inj hnodes
    exact answers_pure []
  | cons n rest ih =>
    obtain ⟨v, more, rfl, hv, hmore⟩ := Node.dataAll?_cons hnodes
    obtain ⟨hfirst, hrest⟩ := List.forall_mem_cons.1 hread
    rw [List.mapM_cons]
    exact (hfirst ⟨n, _, depth⟩ hv rfl).bind fun a _ =>
      (ih hmore hrest (index + 1)).bind fun as _ => answers_pure (a :: as)

/-- A list is read item by item. -/
theorem items_answers {items : List Value} (h : s.node.data? = some (.sequence items))
    {depth : Nat} (hdepth : s.depth = depth + 1) {read : Spot → Reading α} {f : Value → Option α}
    (hread : ∀ v ∈ items, ∀ s : Spot, s.node.data? = some v → s.depth = depth →
      (read s).Answers (f v)) : (s.items read).Answers (items.mapM f) := by
  refine reading_answers h ?_
  obtain ⟨label, nodes, hnode, -, hnodes⟩ := Node.exists_sequence h
  rw [hnode]
  exact (entered_answers hdepth).andThen (readItems_answers hnodes hread s.route 0)

/-- Members are read one by one, until one fails. -/
theorem foldMembers_answers {σ : Type} {step : σ → Spot → Spot → Reading σ}
    {add : σ → Value × Value → Option σ} {depth : Nat} {nodes : List (Node × Node)}
    {members : List (Value × Value)} (hnodes : Node.dataMembers? nodes = some members)
    (hstep : ∀ m ∈ members, ∀ state key (value : Spot), key.node.data? = some m.1 →
      value.node.data? = some m.2 → key.depth = depth → value.depth = depth →
        (step state key value).Answers (add state m)) (route : Route) (state : σ) :
    (foldMembers route depth step nodes state).Answers (members.foldlM add state) := by
  induction nodes generalizing members state with
  | nil =>
    obtain rfl : [] = members := Option.some.inj hnodes
    exact answers_pure state
  | cons m rest ih =>
    obtain ⟨key, value, more, rfl, hkey, hvalue, hmore⟩ := Node.dataMembers?_cons hnodes
    obtain ⟨hfirst, hrest⟩ := List.forall_mem_cons.1 hstep
    rw [List.foldlM_cons]
    exact (hfirst state ⟨m.1, _, depth⟩ ⟨m.2, _, depth⟩ hkey hvalue rfl rfl).bind fun state' _ =>
      ih hmore hrest state'

/-- A mapping is read field by field. -/
theorem members_answers {σ : Type} {fields : List (String × Value)}
    (h : s.node.data? = some (.ofFields fields)) {depth : Nat} (hdepth : s.depth = depth + 1)
    {step : σ → Spot → Spot → Reading σ} {add : σ → String × Value → Option σ}
    (hstep : ∀ field ∈ fields, ∀ state key (value : Spot),
      key.node.data? = some (.plain (.text field.1)) → value.node.data? = some field.2 →
        value.depth = depth → (step state key value).Answers (add state field))
    {finish : σ → Reading α} {last : σ → Option α}
    (hfinish : ∀ state, (finish state).Answers (last state)) (typeName : String) (start : σ) :
    (s.members typeName start step finish).Answers ((fields.foldlM add start).bind last) := by
  refine reading_answers h ?_
  obtain ⟨label, nodes, hnode, -, hnodes⟩ := Node.exists_mapping h
  rw [hnode]
  -- a key that is a text is the name of a field
  have hfold : (foldMembers s.route depth step nodes start).Answers
      ((fields.map Value.ofField).foldlM
        (fun state m => m.1.text?.bind fun key => add state (key, m.2)) start) := by
    refine foldMembers_answers hnodes (fun m hm state key value hkey hvalue _ hdepth => ?_) _ _
    obtain ⟨field, hfield, rfl⟩ := List.mem_map.1 hm
    exact hstep field hfield state key value hkey hvalue hdepth
  rw [List.foldlM_map] at hfold
  exact (entered_answers hdepth).andThen (hfold.bind fun state _ => hfinish state)

/-! ### Data of unknown type -/

/-- Integers of 64 bits are told apart. -/
theorem isData_of_fits {p : Plain} (h : p.fits = true) : IsData p := by
  intro what hfound
  cases p with
  | natural n => simp_all [Plain.fits, Plain.found]
  | signed n => simp_all [Plain.fits, Plain.found]
  | _ => simp [Plain.found] at hfound

/-- A node with data is not refused for its tag. -/
theorem untagged_of_data {v : Value} (h : s.node.data? = some v) (read : Reading Value) :
    s.untagged read = read := by
  rw [untagged, tagOf_of_data h]
  rfl

/-- A scalar is read as its data, however deep. -/
theorem scalar_answers {p : Plain} (h : s.node.data? = some (.plain p)) (levels : Nat) :
    (valueFrom levels s).Answers (some (.plain p)) := by
  obtain ⟨label, text, style, hnode, htag, hfits, hp⟩ := Node.exists_scalar h
  have hread : (scalarValue label text style).Answers (some (.plain p)) := by
    have hof : Plain.ofScalar label.tag text style = .ok p := by
      simp [Plain.ofScalar, htag, hp]
    rw [scalarValue, hof]
    intro anchors count
    exact congrArg Except.toOption (plainValue_gives (isData_of_fits hfits) anchors count)
  cases levels
  all_goals
    refine reading_answers h ?_
    rw [untagged_of_data h, hnode]
    exact hread

/-- Data are read as they are, if collections may be nested as deep. -/
theorem valueFrom_answers {levels : Nat} {v : Value} (h : s.node.data? = some v)
    (hlevels : v.depth ≤ levels) : (valueFrom levels s).Answers (some v) := by
  -- by induction on the levels left; a container takes one of them for what is in it
  induction levels generalizing s v with
  | zero =>
    cases v with
    | plain p => exact scalar_answers h 0
    | sequence items =>
      rw [Value.depth] at hlevels
      omega
    | mapping members =>
      rw [Value.depth] at hlevels
      omega
  | succ levels ih =>
    cases v with
    | plain p => exact scalar_answers h (levels + 1)
    | sequence items =>
      rw [Value.depth] at hlevels
      refine reading_answers h ?_
      rw [untagged_of_data h]
      obtain ⟨label, nodes, hnode, -, hnodes⟩ := Node.exists_sequence h
      rw [hnode]
      have hitems : (readItems s.route levels (valueFrom levels) 0 nodes).Answers
          (items.mapM some) := by
        refine readItems_answers hnodes (fun v hv s hs _ => ?_) _ _
        have := Value.depth_le_depthAll hv
        exact ih hs (by omega)
      rw [mapM_some] at hitems
      exact hitems.andThen (answers_pure _)
    | mapping members =>
      rw [Value.depth] at hlevels
      refine reading_answers h ?_
      rw [untagged_of_data h]
      obtain ⟨label, nodes, hnode, -, hnodes⟩ := Node.exists_mapping h
      rw [hnode]
      have hpairs : (foldMembers s.route levels (addPair (valueFrom levels)) nodes []).Answers
          (members.foldlM (fun pairs m => some (m :: pairs)) []) := by
        refine foldMembers_answers hnodes (fun m hm pairs key value hkey hvalue _ _ => ?_) _ _
        have := Value.depth_le_depthMembers hm
        exact (ih hkey (by omega)).andThen ((ih hvalue (by omega)).andThen (answers_pure _))
      -- pairs are collected with the last one first
      have hcollected : members.foldlM (fun pairs m => some (m :: pairs)) [] =
          some members.reverse := by
        simp [List.foldlM_pure, ← Option.pure_def]
      rw [hcollected] at hpairs
      refine hpairs.andThen ?_
      rw [List.reverse_reverse]
      exact answers_pure _

/-- Data are read as they are. -/
theorem value_answers {v : Value} (h : s.node.data? = some v) (hdepth : v.depth ≤ s.depth) :
    s.value.Answers (some v) :=
  valueFrom_answers h hdepth

/-- A node with data is passed over. -/
theorem skip_answers {v : Value} (h : s.node.data? = some v) : s.skip.Answers (some ()) := by
  rw [skip, Node.isWhole_of_data h, if_pos rfl]
  exact answers_pure ()

end Spot

/-- What is read from a document with nothing else in it. -/
theorem Document.toOption_read {α : Type} {d : Document} (honly : d.isOnly = true)
    {read : Spot → Reading α} {o : Option α}
    (h : (read ⟨d.root, .root, Document.nestingLimit⟩).Answers o) :
    (d.read read).toOption = o := by
  have hread := h ⟨d.root.anchored, 100 * d.root.size⟩ 0
  rw [Document.read]
  cases hresult : read ⟨d.root, .root, Document.nestingLimit⟩
      ⟨d.root.anchored, 100 * d.root.size⟩ 0 with
  | error e =>
    rw [hresult, toOption_error] at hread
    exact (Option.map_eq_none_iff.1 hread.symm).symm
  | ok p =>
    rw [hresult, toOption_ok] at hread
    obtain ⟨a, rfl, rfl⟩ := Option.map_eq_some_iff.1 hread.symm
    simp [honly]

end SovdConfig.Yaml
