import SovdConfig.Proofs.Yaml.Outline
import SovdConfig.Yaml.Decoder

namespace SovdConfig.Yaml

/-!
# Reading outlines

The nodes of an outline are read by the typed readers wherever they stand.  Main definitions:

* `Reading.Gives` — a reading that succeeds without following an alias;
* `Spot.Adds`, `Spot.Steps` — what is read from a member of a table, and from all of them;
* `Outline.FitsPlain` — texts that stand for data.

Main statements: `Spot.text_gives`, `Spot.word_gives`, `Spot.variant_gives`, `Spot.items_gives`,
`Spot.members_gives`, `Spot.value_gives`, and `Document.read_of_gives` for a whole document.
-/

namespace Reading

variable {α β : Type} {r : Reading α} {a : α}

/-- Whether a reading succeeds without following an alias. -/
def Gives (r : Reading α) (a : α) : Prop :=
  ∀ anchors count, r anchors count = .ok (a, count)

/-- A value is given as it is. -/
theorem Gives.pure (a : α) : (pure a : Reading α).Gives a := fun _ _ => rfl

/-- One reading follows the other. -/
theorem Gives.bind (h : r.Gives a) {f : α → Reading β} {b : β} (hf : (f a).Gives b) :
    (r >>= f).Gives b := fun anchors count => by
  show (r anchors count >>= fun p => f p.1 anchors p.2) = _
  rw [h anchors count]
  exact hf anchors count

/-- A function is applied to what is given. -/
theorem Gives.map (h : r.Gives a) (f : α → β) : (f <$> r).Gives (f a) := fun anchors count => by
  show (r anchors count >>= fun p => Except.ok (f p.1, p.2)) = _
  rw [h anchors count]
  rfl

/-- A position changes nothing in a success. -/
theorem Gives.located (h : r.Gives a) (p : Position) : (r.located p).Gives a :=
  fun anchors count => by rw [Reading.located, h anchors count]

end Reading

open Reading

namespace Spot

variable {α : Type} {s : Spot}

/-- A node of an outline is read where it stands. -/
theorem reading_gives {o : Outline} (ho : o.Shows s.node) {read : Spot → Reading α} {a : α}
    (h : (read s).Gives a) : (s.reading read).Gives a := by
  obtain ⟨node, route, depth⟩ := s
  cases o with
  | text content =>
    obtain ⟨mark, rfl⟩ := ho
    exact h.located _
  | list items =>
    obtain ⟨mark, nodes, rfl, -⟩ := ho
    exact h.located _
  | table members =>
    obtain ⟨mark, nodes, rfl, -⟩ := ho
    exact h.located _

/-! ### Scalars -/

/-- A text is read as it is. -/
theorem text_gives {content : String} (h : (Outline.text content).Shows s.node)
    (expected : String) : (s.text expected).Gives content := by
  refine reading_gives h ?_
  obtain ⟨mark, hnode⟩ := h
  rw [hnode]
  exact .pure content

/-- A number of 16 bits is read. -/
theorem word_gives {content : String} (h : (Outline.text content).Shows s.node) {n : Nat}
    (hn : Plain.word? content = some n) (hfits : fitsUnsigned 16 n = true) :
    s.word.Gives (.ofNat n) := by
  refine reading_gives h ?_
  obtain ⟨mark, hnode⟩ := h
  rw [hnode]
  have hfound : (Plain.word? content).filter (fun _ => true) = some n := by rw [hn]; rfl
  simp [mayBeInteger, hfound, hfits, Gives.pure]

/-- A text without a tag is read as the name of a value. -/
theorem variant_eq_reading {content : String} (h : (Outline.text content).Shows s.node)
    (ofName? : String → Option α) (known : List String) :
    s.variant ofName? known = s.reading fun s =>
      match s.node with
      | .scalar _ name _ => named ofName? known name
      | _ => s.otherKind "a YAML tag starting with '!'" := by
  obtain ⟨mark, hnode⟩ := h
  rw [variant, hnode]
  rfl

/-- A value of an enumeration is read by its name. -/
theorem variant_gives {content : String} (h : (Outline.text content).Shows s.node)
    {ofName? : String → Option α} {a : α} (ha : ofName? content = some a) (known : List String) :
    (s.variant ofName? known).Gives a := by
  rw [variant_eq_reading h]
  refine reading_gives h ?_
  obtain ⟨mark, hnode⟩ := h
  rw [hnode]
  simp [named, ha, Gives.pure]

/-! ### Collections -/

/-- A collection is entered where a level of nesting is left. -/
theorem entered_gives {depth : Nat} (hdepth : s.depth = depth + 1) : s.entered.Gives depth := by
  rw [entered, hdepth]
  exact .pure depth

/-- Items are read one by one. -/
theorem readItems_gives {β : Type} {outline : β → Outline} {xs : List β} {f : β → α}
    {read : Spot → Reading α} {depth : Nat}
    (h : ∀ x ∈ xs, ∀ s : Spot, (outline x).Shows s.node → s.depth = depth → (read s).Gives (f x))
    {nodes : List Node} (hnodes : Outline.ShowsAll (xs.map outline) nodes) (route : Route)
    (index : Nat) : (readItems route depth read index nodes).Gives (xs.map f) := by
  induction xs generalizing nodes index with
  | nil =>
    obtain rfl : nodes = [] := hnodes
    exact .pure []
  | cons x xs ih =>
    obtain ⟨n, more, rfl, hn, hmore⟩ := hnodes
    have hfirst := h x (by simp) ⟨n, .item route index, depth⟩ hn rfl
    have hrest := ih (fun y hy => h y (by simp [hy])) hmore (index + 1)
    exact hfirst.bind (hrest.bind (.pure _))

/-- A list is read item by item. -/
theorem items_gives {β : Type} {outline : β → Outline} {xs : List β} {f : β → α}
    {read : Spot → Reading α} {depth : Nat}
    (h : ∀ x ∈ xs, ∀ s : Spot, (outline x).Shows s.node → s.depth = depth → (read s).Gives (f x))
    (hs : (Outline.list (xs.map outline)).Shows s.node) (hdepth : s.depth = depth + 1) :
    (s.items read).Gives (xs.map f) := by
  refine reading_gives hs ?_
  obtain ⟨mark, nodes, hnode, hnodes⟩ := hs
  rw [hnode]
  exact (entered_gives hdepth).bind (readItems_gives h hnodes s.route 0)

/-- Whether reading a member, wherever it stands at the depth, leads from one state to another. -/
def Adds {σ : Type} (step : σ → Spot → Spot → Reading σ) (depth : Nat) (m : String × Outline)
    (state state' : σ) : Prop :=
  ∀ key value : Spot, (Outline.text m.1).Shows key.node → m.2.Shows value.node →
    value.depth = depth → (step state key value).Gives state'

/-- What is read from the members of a table, one by one. -/
inductive Steps {σ : Type} (step : σ → Spot → Spot → Reading σ) (depth : Nat) :
    List (String × Outline) → σ → σ → Prop
  | nil {state : σ} : Steps step depth [] state state
  | cons {m : String × Outline} {rest : List (String × Outline)} {state state' final : σ} :
    Adds step depth m state state' → Steps step depth rest state' final →
    Steps step depth (m :: rest) state final

variable {σ : Type} {step : σ → Spot → Spot → Reading σ} {depth : Nat}
  {members : List (String × Outline)} {state final : σ}

/-- Members are read one by one. -/
theorem foldMembers_gives (h : Steps step depth members state final) {nodes : List (Node × Node)}
    (hnodes : Outline.ShowsMembers members nodes) (route : Route) :
    (foldMembers route depth step nodes state).Gives final := by
  induction h generalizing nodes with
  | nil =>
    obtain rfl : nodes = [] := hnodes
    exact .pure _
  | cons hstep _ ih =>
    obtain ⟨mark, n, more, rfl, hn, hmore⟩ := hnodes
    exact (hstep ⟨_, route, depth⟩ ⟨n, _, depth⟩ ⟨mark, rfl⟩ hn rfl).bind (ih hmore)

/-- A table is read member by member. -/
theorem members_gives (h : Steps step depth members state final)
    (hs : (Outline.table members).Shows s.node) (hdepth : s.depth = depth + 1) (typeName : String)
    {finish : σ → Reading α} {a : α} (hfinish : (finish final).Gives a) :
    (s.members typeName state step finish).Gives a := by
  refine reading_gives hs ?_
  obtain ⟨mark, nodes, hnode, hnodes⟩ := hs
  rw [hnode]
  exact (entered_gives hdepth).bind ((foldMembers_gives h hnodes s.route).bind hfinish)

/-! ### Data of unknown type -/

/-- Whether what a text stands for can be told apart from the types that are not data. -/
def IsData (p : Plain) : Prop := ∀ what, p.found ≠ .named what

/-- What a text stands for is read as data. -/
theorem plainValue_gives {p : Plain} (h : IsData p) : (plainValue p).Gives (.plain p) := by
  unfold plainValue
  split
  · next what hfound => exact absurd hfound (h what)
  · exact .pure _

/-- The value of a text without quotes. -/
def textValue (content : String) : Value := .plain (Plain.ofText content)

/-- A node of an outline has no tag. -/
theorem untagged_eq {o : Outline} (h : o.Shows s.node) (read : Reading Value) :
    s.untagged read = read := by
  have htag : ownTag? (tagOf s.node) = none := by
    cases o with
    | text content =>
      obtain ⟨mark, hnode⟩ := h
      rw [hnode]
      rfl
    | list items =>
      obtain ⟨mark, nodes, hnode, -⟩ := h
      rw [hnode]
      rfl
    | table members =>
      obtain ⟨mark, nodes, hnode, -⟩ := h
      rw [hnode]
      rfl
  simp [untagged, htag]

/-- A text is read as what it stands for, however deep. -/
theorem valueFrom_text_gives {content : String} (h : (Outline.text content).Shows s.node)
    (hdata : IsData (Plain.ofText content)) (levels : Nat) :
    (valueFrom levels s).Gives (textValue content) := by
  have hread : ∀ mark, (scalarValue { mark } content .plain).Gives (textValue content) :=
    fun mark => plainValue_gives hdata
  obtain ⟨mark, hnode⟩ := id h
  cases levels with
  | zero =>
    refine reading_gives h ?_
    rw [untagged_eq h, hnode]
    exact hread mark
  | succ levels =>
    refine reading_gives h ?_
    rw [untagged_eq h, hnode]
    exact hread mark

/-- A text is read as what it stands for. -/
theorem value_text_gives {content : String} (h : (Outline.text content).Shows s.node)
    (hdata : IsData (Plain.ofText content)) : s.value.Gives (textValue content) :=
  valueFrom_text_gives h hdata s.depth

/-- Members that are texts are collected in reverse. -/
theorem steps_addPair {members : List (String × String)}
    (hdata : ∀ m ∈ members, IsData (Plain.ofText m.1) ∧ IsData (Plain.ofText m.2)) (levels : Nat)
    (pairs : List (Value × Value)) :
    Steps (addPair (valueFrom levels)) levels (members.map fun m => (m.1, .text m.2)) pairs
      ((members.map fun m => (textValue m.1, textValue m.2)).reverse ++ pairs) := by
  induction members generalizing pairs with
  | nil => exact .nil
  | cons m members ih =>
    obtain ⟨hkey, hvalue⟩ := hdata m (by simp)
    rw [List.map_cons, List.map_cons, List.reverse_cons, List.append_assoc, List.singleton_append]
    refine .cons (fun key value hk hv _ => ?_) (ih (fun m hm => hdata m (by simp [hm])) _)
    exact (valueFrom_text_gives hk hkey levels).bind
      ((valueFrom_text_gives hv hvalue levels).bind (.pure _))

/-- A table of texts is read as what they stand for, member by member. -/
theorem value_table_gives {members : List (String × String)}
    (h : (Outline.table (members.map fun m => (m.1, .text m.2))).Shows s.node)
    (hdata : ∀ m ∈ members, IsData (Plain.ofText m.1) ∧ IsData (Plain.ofText m.2))
    {levels : Nat} (hdepth : s.depth = levels + 1) :
    s.value.Gives (.mapping (members.map fun m => (textValue m.1, textValue m.2))) := by
  rw [value, hdepth]
  refine reading_gives h ?_
  rw [untagged_eq h]
  obtain ⟨mark, nodes, hnode, hnodes⟩ := h
  rw [hnode]
  have hpairs := foldMembers_gives (steps_addPair hdata levels []) hnodes s.route
  rw [List.append_nil] at hpairs
  rw [← List.reverse_reverse (members.map fun m => (textValue m.1, textValue m.2))]
  exact hpairs.bind (.pure _)

end Spot

/-- What is read from the root of a document with nothing else in it. -/
theorem Document.read_of_gives {α : Type} {root : Node} {read : Spot → Reading α} {a : α}
    (h : (read ⟨root, .root, Document.nestingLimit⟩).Gives a) :
    (Document.mk root true).read read = .ok a := by
  rw [Document.read, h]
  rfl

end SovdConfig.Yaml
