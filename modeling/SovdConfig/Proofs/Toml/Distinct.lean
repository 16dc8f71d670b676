import SovdConfig.Toml.Reader

namespace SovdConfig.Toml

/-!
# Keys of TOML tables

No key occurs twice in a table that is read.  Main definitions:

* `Distinct` — a value in whose tables no key occurs twice;
* `Item.Distinct`, `DistinctItems` — the same of tables under construction.

Main statement: `read?_distinct`, the tables of a document that is read have distinct keys.  Each
step of the construction keeps them distinct, since it sets one member or refuses.
-/

/-- Whether no key occurs twice in any table of a value. -/
inductive Distinct : Toml → Prop
  | string (s : String) : Distinct (.string s)
  | integer (n : Int) : Distinct (.integer n)
  | double (x : Binary64) : Distinct (.double x)
  | boolean (b : Bool) : Distinct (.boolean b)
  | moment (text : String) : Distinct (.moment text)
  | array {items : List Toml} : (∀ v ∈ items, Distinct v) → Distinct (.array items)
  | table {members : List (String × Toml)} :
    (members.map Prod.fst).Nodup → (∀ m ∈ members, Distinct m.2) → Distinct (.table members)

/-- Whether no key occurs twice in any table of an item. -/
inductive Item.Distinct : Item → Prop
  | value {v : Toml} : Toml.Distinct v → Item.Distinct (.value v)
  | table {origin : Origin} {members : Items} :
    (members.map Prod.fst).Nodup → (∀ m ∈ members, Item.Distinct m.2) →
      Item.Distinct (.table origin members)
  | elements {last : Items} {before : List Items} :
    (∀ members ∈ last :: before, (members.map Prod.fst).Nodup) →
      (∀ members ∈ last :: before, ∀ m ∈ members, Item.Distinct m.2) →
        Item.Distinct (.elements last before)

/-- Whether no key occurs twice among members under construction or inside them. -/
structure DistinctItems (items : Items) : Prop where
  nodup : (items.map Prod.fst).Nodup
  inside : ∀ m ∈ items, m.2.Distinct

/-! ### Construction -/

/-- An empty table has no keys at all. -/
theorem DistinctItems.nil : DistinctItems [] := ⟨by simp, by simp⟩

/-- Setting a member keeps keys distinct. -/
theorem DistinctItems.set {items : Items} (h : DistinctItems items) {item : Item}
    (hitem : item.Distinct) (key : String) : DistinctItems (setMember items key item) where
  nodup := nodup_setMember h.nodup key item
  inside m hm := by
    rcases mem_setMember hm with rfl | hm
    · exact hitem
    · exact h.inside m hm

/-- The members of a table that is found have distinct keys. -/
theorem DistinctItems.table {items members : Items} {key : String} {origin : Origin}
    (h : DistinctItems items) (hkey : items.lookup key = some (.table origin members)) :
    DistinctItems members := by
  have hitem : (Item.table origin members).Distinct := h.inside _ (mem_of_lookup_eq_some hkey)
  cases hitem with
  | table hnodup hinside => exact ⟨hnodup, hinside⟩

/-- So do those of all elements of an array of tables. -/
theorem DistinctItems.elements {items last : Items} {before : List Items} {key : String}
    (h : DistinctItems items) (hkey : items.lookup key = some (.elements last before)) :
    ∀ members ∈ last :: before, DistinctItems members := by
  have hitem : (Item.elements last before).Distinct := h.inside _ (mem_of_lookup_eq_some hkey)
  cases hitem with
  | elements hnodup hinside => exact fun members hm => ⟨hnodup members hm, hinside members hm⟩

/-- A table with distinct keys is an item with distinct keys. -/
theorem DistinctItems.toTable {members : Items} (h : DistinctItems members) (origin : Origin) :
    (Item.table origin members).Distinct := .table h.nodup h.inside

/-- So are elements of an array, each with distinct keys. -/
theorem distinct_elements {last : Items} {before : List Items}
    (h : ∀ members ∈ last :: before, DistinctItems members) :
    (Item.elements last before).Distinct :=
  .elements (fun members hm => (h members hm).nodup) fun members hm => (h members hm).inside

/-- The last element of an array of tables may be replaced. -/
theorem forall_replace {last next : Items} {before : List Items}
    (h : ∀ members ∈ last :: before, DistinctItems members) (hnext : DistinctItems next) :
    ∀ members ∈ next :: before, DistinctItems members := by
  intro members hm
  rcases List.mem_cons.1 hm with rfl | hm
  · exact hnext
  · exact h members (List.mem_cons_of_mem _ hm)

/-- Giving a value to a key keeps keys distinct. -/
theorem assign?_distinct {mayHold : Bool} {items after : Items} {keys : List String} {v : Toml}
    (h : DistinctItems items) (hv : v.Distinct)
    (hafter : assign? mayHold items keys v = some after) : DistinctItems after := by
  fun_induction assign? mayHold items keys v generalizing after with
  | case1 => simp at hafter
  | case2 mayHold items key v hnew =>
    obtain rfl := Option.some.inj hafter
    exact h.set (.value hv) key
  | case3 => simp at hafter
  | case4 mayHold items key next path v hkey ih =>
    obtain ⟨members, hmembers, rfl⟩ := Option.map_eq_some_iff.1 hafter
    exact h.set ((ih .nil hv hmembers).toTable _) key
  | case5 => simp at hafter
  | case6 => simp at hafter
  | case7 mayHold items key next path v origin members hopened hkey ih =>
    obtain ⟨more, hmore, rfl⟩ := Option.map_eq_some_iff.1 hafter
    exact h.set ((ih (h.table hkey) hv hmore).toTable _) key
  | case8 mayHold items key next path v last before hkey ih =>
    obtain ⟨more, hmore, rfl⟩ := Option.map_eq_some_iff.1 hafter
    have hall := h.elements hkey
    exact h.set (distinct_elements (forall_replace hall (ih (hall _ (by simp)) hv hmore))) key

/-- What a header makes of an item has distinct keys. -/
theorem opened?_distinct {element : Bool} {items : Items} {key : String} {item : Item}
    (h : DistinctItems items) (hitem : opened? element (items.lookup key) = some item) :
    item.Distinct := by
  rcases hkey : items.lookup key with - | (v | ⟨origin, members⟩ | ⟨last, before⟩) <;>
    rw [hkey] at hitem
  · obtain rfl := Option.some.inj hitem
    cases element
    · exact DistinctItems.nil.toTable _
    · exact distinct_elements (by simp [DistinctItems.nil])
  · simp [opened?] at hitem
  · cases origin with
    | implied =>
      cases element
      · obtain rfl : Item.table .opened members = item := by simpa [opened?] using hitem
        exact (h.table hkey).toTable _
      · simp [opened?] at hitem
    | dotted => simp [opened?] at hitem
    | opened => simp [opened?] at hitem
  · cases element
    · simp [opened?] at hitem
    · obtain rfl : Item.elements [] (last :: before) = item := by simpa [opened?] using hitem
      refine distinct_elements fun members hm => ?_
      rcases List.mem_cons.1 hm with rfl | hm
      · exact .nil
      · exact h.elements hkey members hm

/-- Opening a table keeps keys distinct. -/
theorem open?_distinct {element : Bool} {items after : Items} {keys : List String}
    (h : DistinctItems items) (hafter : open? element items keys = some after) :
    DistinctItems after := by
  fun_induction open? element items keys generalizing after with
  | case1 => simp at hafter
  | case2 items key =>
    obtain ⟨item, hitem, rfl⟩ := Option.map_eq_some_iff.1 hafter
    exact h.set (opened?_distinct h hitem) key
  | case3 items key next path hkey ih =>
    obtain ⟨members, hmembers, rfl⟩ := Option.map_eq_some_iff.1 hafter
    exact h.set ((ih .nil hmembers).toTable _) key
  | case4 => simp at hafter
  | case5 items key next path origin members hkey ih =>
    obtain ⟨more, hmore, rfl⟩ := Option.map_eq_some_iff.1 hafter
    exact h.set ((ih (h.table hkey) hmore).toTable _) key
  | case6 items key next path last before hkey ih =>
    obtain ⟨more, hmore, rfl⟩ := Option.map_eq_some_iff.1 hafter
    have hall := h.elements hkey
    exact h.set (distinct_elements (forall_replace hall (ih (hall _ (by simp)) hmore))) key

/-- Giving a value to a key in an open table keeps keys distinct. -/
theorem assignUnder?_distinct {items after : Items} {header keys : List String} {v : Toml}
    (h : DistinctItems items) (hv : v.Distinct)
    (hafter : assignUnder? items header keys v = some after) : DistinctItems after := by
  fun_induction assignUnder? items header keys v generalizing after with
  | case1 items keys v => exact assign?_distinct h hv hafter
  | case2 items key header keys v origin members hkey ih =>
    obtain ⟨more, hmore, rfl⟩ := Option.map_eq_some_iff.1 hafter
    exact h.set ((ih (h.table hkey) hv hmore).toTable _) key
  | case3 items key header keys v last before hkey ih =>
    obtain ⟨more, hmore, rfl⟩ := Option.map_eq_some_iff.1 hafter
    have hall := h.elements hkey
    exact h.set (distinct_elements (forall_replace hall (ih (hall _ (by simp)) hv hmore))) key
  | case4 => simp at hafter

/-! ### Finished tables -/

/-- Finishing members leaves their keys alone. -/
theorem map_fst_membersToToml (items : Items) :
    (membersToToml items).map Prod.fst = items.map Prod.fst := by
  induction items with
  | nil => rfl
  | cons m rest ih => simp [membersToToml, ih]

mutual

/-- A finished item has distinct keys. -/
theorem distinct_toToml : ∀ item : Item, item.Distinct → item.toToml.Distinct
  | .value _, .value hv => by rwa [Item.toToml]
  | .table _ members, .table hnodup hinside => by
    rw [Item.toToml]
    exact .table (by rwa [map_fst_membersToToml]) (distinct_membersToToml members hinside)
  | .elements last before, .elements hnodup hinside => by
    rw [Item.toToml]
    refine .array fun v hv => ?_
    rcases List.mem_append.1 hv with hv | hv
    · exact distinct_elementsToToml before
        (fun members hm => hnodup members (List.mem_cons_of_mem _ hm))
        (fun members hm => hinside members (List.mem_cons_of_mem _ hm)) v (List.mem_reverse.1 hv)
    · rw [List.mem_singleton.1 hv]
      exact .table (by rw [map_fst_membersToToml]; exact hnodup last (by simp))
        (distinct_membersToToml last (hinside last (by simp)))

/-- Finished members have distinct keys inside them. -/
theorem distinct_membersToToml : ∀ items : Items, (∀ m ∈ items, m.2.Distinct) →
    ∀ m ∈ membersToToml items, m.2.Distinct
  | [], _ => by simp [membersToToml]
  | (key, item) :: rest, h => by
    rw [membersToToml]
    exact List.forall_mem_cons.2 ⟨distinct_toToml item (h (key, item) (by simp)),
      distinct_membersToToml rest fun m hm => h m (by simp [hm])⟩

/-- The finished elements of an array of tables have distinct keys. -/
theorem distinct_elementsToToml : ∀ before : List Items,
    (∀ members ∈ before, (members.map Prod.fst).Nodup) →
      (∀ members ∈ before, ∀ m ∈ members, m.2.Distinct) → ∀ v ∈ elementsToToml before, v.Distinct
  | [], _, _ => by simp [elementsToToml]
  | members :: rest, hnodup, hinside => by
    rw [elementsToToml]
    refine List.forall_mem_cons.2 ⟨.table ?_ ?_, ?_⟩
    · rw [map_fst_membersToToml]
      exact hnodup members (by simp)
    · exact distinct_membersToToml members (hinside members (by simp))
    · exact distinct_elementsToToml rest (fun ms hms => hnodup ms (by simp [hms]))
        fun ms hms => hinside ms (by simp [hms])

end

/-! ### Values -/

/-- An integer in range is a value without tables. -/
theorem distinct_of_inRange? {n : Int} {v : Toml} (h : inRange? n = some v) : v.Distinct := by
  obtain ⟨-, h⟩ := Option.ite_none_right_eq_some.1 h
  obtain rfl := Option.some.inj h
  exact .integer n

/-- So is a decimal number. -/
theorem distinct_of_decimal? {negative : Bool} {cs : List Char} {v : Toml}
    (h : decimal? negative cs = some v) : v.Distinct := by
  simp only [decimal?, Option.bind_eq_bind, Option.bind_eq_some_iff] at h
  obtain ⟨whole, -, h⟩ := h
  split at h
  · exact distinct_of_inRange? h
  · obtain ⟨-, -, -, -, x, -, h⟩ := by simpa only [Option.bind_eq_some_iff] using h
    obtain ⟨-, rfl⟩ := by simpa using h
    exact .double x
  · obtain ⟨-, -, x, -, h⟩ := by simpa only [Option.bind_eq_some_iff] using h
    obtain ⟨-, rfl⟩ := by simpa using h
    exact .double x

/-- So is every bare word. -/
theorem distinct_of_scalar? {cs : List Char} {v : Toml} (h : scalar? cs = some v) :
    v.Distinct := by
  have hbased : ∀ {base : Nat} {digits : List Char}, basedInteger? base digits = some v →
      v.Distinct := by
    intro base digits h
    simp only [basedInteger?, Option.bind_eq_bind, Option.bind_eq_some_iff] at h
    obtain ⟨_, -, h⟩ := h
    exact distinct_of_inRange? h
  unfold scalar? at h
  split at h
  · obtain rfl := Option.some.inj h
    exact .moment _
  · split at h
    · obtain rfl := Option.some.inj h
      exact .boolean _
    · obtain rfl := Option.some.inj h
      exact .boolean _
    · exact hbased h
    · exact hbased h
    · exact hbased h
    · simp only [signed?] at h
      split at h
      · obtain rfl := Option.some.inj h
        exact .double _
      · split at h
        · obtain rfl := Option.some.inj h
          exact .double _
        · exact distinct_of_decimal? h

/-- A value without quotes has no tables. -/
theorem distinct_of_word? {cs rest : List Char} {v : Toml} (h : word? cs = some (v, rest)) :
    v.Distinct := by
  have hscalar : ∀ {word : List Char} {rest' : List Char},
      (scalar? word).map (fun v => (v, rest')) = some (v, rest) → v.Distinct := by
    intro word rest' h
    obtain ⟨w, hw, heq⟩ := Option.map_eq_some_iff.1 h
    obtain ⟨rfl, -⟩ := Prod.mk.inj heq
    exact distinct_of_scalar? hw
  simp only [word?] at h
  split at h
  · split at h
    · exact hscalar h
    · exact hscalar h
  · exact hscalar h

section

variable {value : List Char → Option (Toml × List Char)}
  (hvalue : ∀ {cs v rest}, value cs = some (v, rest) → v.Distinct)

include hvalue

/-- The items of an array have distinct keys if values do. -/
theorem distinct_of_itemsFrom {fuel : Nat} {cs rest : List Char} {vs : List Toml}
    (h : itemsFrom value fuel cs = some (vs, rest)) : ∀ v ∈ vs, v.Distinct := by
  induction fuel generalizing cs vs with
  | zero => simp [itemsFrom] at h
  | succ fuel ih =>
    rw [itemsFrom] at h
    split at h
    · obtain ⟨rfl, -⟩ := Prod.mk.inj (Option.some.inj h)
      simp
    · simp only [Option.bind_eq_bind, Option.bind_eq_some_iff] at h
      obtain ⟨⟨v, after⟩, hv, h⟩ := h
      split at h
      · obtain ⟨rfl, -⟩ := Prod.mk.inj (Option.some.inj h)
        simpa using hvalue hv
      · obtain ⟨⟨more, end'⟩, hmore, h⟩ := Option.bind_eq_some_iff.1 h
        obtain ⟨rfl, rfl⟩ := Prod.mk.inj (Option.some.inj h)
        exact List.forall_mem_cons.2 ⟨hvalue hv, ih hmore⟩
      · simp at h

/-- The value that is assigned to a key has distinct keys if values do. -/
theorem distinct_of_assignment? {cs rest : List Char} {keys : List String} {v : Toml}
    (h : assignment? value cs = some ((keys, v), rest)) : v.Distinct := by
  simp only [assignment?, Option.bind_eq_bind, Option.bind_eq_some_iff] at h
  obtain ⟨⟨path, after⟩, -, h⟩ := h
  split at h
  · obtain ⟨⟨w, tail⟩, hw, heq⟩ := Option.bind_eq_some_iff.1 h
    obtain ⟨heq, -⟩ := Prod.mk.inj (Option.some.inj heq)
    obtain ⟨-, rfl⟩ := Prod.mk.inj heq
    exact hvalue hw
  · simp at h

/-- The members of an inline table have distinct keys if values do. -/
theorem distinct_of_membersFrom {fuel : Nat} {items after : Items} {cs rest : List Char}
    (hitems : DistinctItems items) (h : membersFrom value fuel items cs = some (after, rest)) :
    DistinctItems after := by
  induction fuel generalizing items cs with
  | zero => simp [membersFrom] at h
  | succ fuel ih =>
    rw [membersFrom] at h
    split at h
    · obtain ⟨rfl, -⟩ := Prod.mk.inj (Option.some.inj h)
      exact hitems
    · simp only [Option.bind_eq_bind, Option.bind_eq_some_iff] at h
      obtain ⟨⟨⟨keys, v⟩, tail⟩, hassign, next, hnext, h⟩ := h
      have hv := distinct_of_assignment? hvalue hassign
      have hdistinct := assign?_distinct hitems hv hnext
      split at h
      · obtain ⟨rfl, -⟩ := Prod.mk.inj (Option.some.inj h)
        exact hdistinct
      · exact ih hdistinct h
      · simp at h

end

/-- Every value has distinct keys. -/
theorem distinct_of_valueFrom {depth : Nat} {cs rest : List Char} {v : Toml}
    (h : valueFrom depth cs = some (v, rest)) : v.Distinct := by
  induction depth generalizing cs rest v with
  | zero =>
    cases cs with
    | nil => simp [valueFrom] at h
    | cons c cs =>
      rw [valueFrom] at h
      split at h
      · obtain ⟨⟨text, after⟩, -, heq⟩ := Option.map_eq_some_iff.1 h
        obtain ⟨rfl, -⟩ := Prod.mk.inj heq
        exact .string _
      · split at h
        · simp at h
        · split at h
          · simp at h
          · exact distinct_of_word? h
  | succ depth ih =>
    cases cs with
    | nil => simp [valueFrom] at h
    | cons c cs =>
      rw [valueFrom] at h
      split at h
      · obtain ⟨⟨text, after⟩, -, heq⟩ := Option.map_eq_some_iff.1 h
        obtain ⟨rfl, -⟩ := Prod.mk.inj heq
        exact .string _
      · split at h
        · obtain ⟨⟨vs, after⟩, hvs, heq⟩ := Option.map_eq_some_iff.1 h
          obtain ⟨rfl, -⟩ := Prod.mk.inj heq
          exact .array (distinct_of_itemsFrom ih hvs)
        · split at h
          -- the reader of inline tables refuses a key that it has seen
          · obtain ⟨⟨items, after⟩, hitems, heq⟩ := Option.map_eq_some_iff.1 h
            obtain ⟨rfl, -⟩ := Prod.mk.inj heq
            have hdistinct := distinct_of_membersFrom ih .nil hitems
            exact .table (by rw [map_fst_membersToToml]; exact hdistinct.nodup)
              (distinct_membersToToml items hdistinct.inside)
          · exact distinct_of_word? h

/-! ### Documents -/

/-- A header assigns nothing. -/
theorem header?_ne_assign {element : Bool} {cs rest : List Char} {statement : Statement}
    (h : header? element cs = some (statement, rest)) (keys : List String) (v : Toml) :
    statement ≠ .assign keys v := by
  simp only [header?, Option.bind_eq_bind, Option.bind_eq_some_iff] at h
  obtain ⟨⟨path, after⟩, -, h⟩ := h
  rintro rfl
  split at h <;> simp at h

/-- A statement that is read keeps the keys of the tables distinct. -/
theorem extend?_distinct {draft next : Draft} {statement : Statement} {cs rest : List Char}
    (hread : statement? cs = some (statement, rest)) (h : DistinctItems draft.items)
    (hnext : statement.extend? draft = some next) : DistinctItems next.items := by
  cases statement with
  | header element keys =>
    obtain ⟨items, hitems, rfl⟩ := Option.map_eq_some_iff.1 hnext
    exact open?_distinct h hitems
  | assign keys v =>
    obtain ⟨items, hitems, rfl⟩ := Option.map_eq_some_iff.1 hnext
    unfold statement? at hread
    split at hread
    · exact absurd rfl (header?_ne_assign hread keys v)
    · exact absurd rfl (header?_ne_assign hread keys v)
    · obtain ⟨⟨⟨path, w⟩, after⟩, hassign, heq⟩ := Option.map_eq_some_iff.1 hread
      simp only [Prod.mk.injEq, Statement.assign.injEq] at heq
      obtain ⟨⟨rfl, rfl⟩, rfl⟩ := heq
      exact assignUnder?_distinct h (distinct_of_assignment? distinct_of_valueFrom hassign) hitems

/-- So does a line. -/
theorem line?_distinct {draft next : Draft} {cs rest : List Char} (h : DistinctItems draft.items)
    (hline : line? draft cs = some (next, rest)) : DistinctItems next.items := by
  unfold line? at hline
  split at hline
  · obtain ⟨rfl, -⟩ := Prod.mk.inj (Option.some.inj hline)
    exact h
  · split at hline
    · obtain ⟨rfl, -⟩ := Prod.mk.inj (Option.some.inj hline)
      exact h
    · simp only [Option.bind_eq_bind, Option.bind_eq_some_iff] at hline
      obtain ⟨⟨statement, after⟩, hread, draft', hdraft, heq⟩ := hline
      obtain ⟨rfl, -⟩ := Prod.mk.inj (Option.some.inj heq)
      exact extend?_distinct hread h hdraft

/-- So do all lines of a document. -/
theorem linesFrom_distinct {fuel : Nat} {draft next : Draft} {cs : List Char}
    (h : DistinctItems draft.items) (hlines : linesFrom fuel draft cs = some next) :
    DistinctItems next.items := by
  induction fuel generalizing draft cs with
  | zero => simp [linesFrom] at hlines
  | succ fuel ih =>
    simp only [linesFrom, Option.bind_eq_bind, Option.bind_eq_some_iff] at hlines
    obtain ⟨⟨draft', rest⟩, hline, hlines⟩ := hlines
    have hdistinct := line?_distinct h hline
    split at hlines
    · obtain rfl := Option.some.inj hlines
      exact hdistinct
    · obtain ⟨⟨_, after⟩, -, hlines⟩ := Option.bind_eq_some_iff.1 hlines
      exact ih hdistinct hlines

/-- No key occurs twice in any table of a document that is read. -/
theorem read?_distinct {text : String} {members : List (String × Toml)}
    (h : read? text = some members) : (Toml.table members).Distinct := by
  obtain ⟨draft, hdraft, rfl⟩ := Option.map_eq_some_iff.1 h
  have hdistinct := linesFrom_distinct .nil hdraft
  exact .table (by rw [map_fst_membersToToml]; exact hdistinct.nodup)
    (distinct_membersToToml _ hdistinct.inside)

end SovdConfig.Toml
