import Mathlib.Data.List.Forall2
import SovdConfig.Definition
import SovdConfig.Proofs.Record
import SovdConfig.Proofs.Yaml.Data

namespace SovdConfig

/-!
# What the members of an entry say

An entry of a definitions document is a mapping.  Main definitions:

* `Definition.length?`, `Definition.conversion?` — the two ways in which members say how large a
  value is;
* `Definition.IsEntry` — members that say everything else;
* `Definition.Describes` — what a definition is that members describe;
* `Definition.Reordered` — the same members in another order, and those of the conversion too;
* `Definition.ofFields?` — the definition that members give, if they do.

Main statements:

* `Definition.isSome_ofFields?` — which entries give a definition;
* `Definition.describes_of_ofFields?` — which one;
* `Definition.ofFields?_reordered` — the order does not matter.
-/

open Yaml (Value)

/-! ### Numbers and names -/

/-- An integer, with a minus sign or without one. -/
def Yaml.Value.integer? : Value → Option Int
  | .plain (.natural n) => some n
  | .plain (.signed n) => some n
  | _ => none

/-- A number, as the nearest double. -/
def Yaml.Value.number? : Value → Option Binary64
  | .plain (.double x) => some x
  | v => v.integer?.map fun n => .ofRatio (decide (n < 0)) n.natAbs 1

/-- The value of an enumeration whose name data is. -/
def Yaml.Value.named? {α : Type} (ofName? : String → Option α) (v : Value) : Option α :=
  v.text?.bind ofName?

namespace Definition

variable {fields fields' : List (String × Value)}

/-! ### Members and what they say -/

/-- The length that members give: an integer from 0 to 2^64 - 1. -/
def length? (fields : List (String × Value)) : Option UInt64 :=
  (((fields.lookup "length").bind Value.integer?).filter fun n : Int => 0 ≤ n ∧ n < twoPower 64).map
    fun n => .ofNat n.toNat

/-- The conversion that members give: two numbers and a text. -/
def conversion? (fields : List (String × Value)) : Option Scaling := do
  let parts ← (fields.lookup "scaling").bind Value.fields?
  let factor ← (parts.lookup "factor").bind Value.number?
  let offset ← (parts.lookup "offset").bind Value.number?
  let unit ← (parts.lookup "unit").bind Value.text?
  return ⟨factor, offset, unit⟩

/-- The layout that members give.  If there are two, the length counts. -/
def layout? (fields : List (String × Value)) : Option ValueLayout :=
  ((length? fields).map .length).or ((conversion? fields).map .scaled)

/-- Whether members say everything about a definition but its layout.  An integer with a minus sign
    may still be zero. -/
structure IsEntry (fields : List (String × Value)) : Prop where
  distinct : (fields.map Prod.fst).Nodup
  did : ∃ n, (fields.lookup "did").bind Value.integer? = some n ∧ 0 ≤ n ∧ n < twoPower 16
  name : ∃ name, fields.lookup "name" = some (.plain (.text name))
  description : ∃ description, fields.lookup "description" = some (.plain (.text description))
  access : ∃ level : AccessLevel, fields.lookup "access" = some (.plain (.text level.name))
  dataType : ∃ type : DataType, fields.lookup "data_type" = some (.plain (.text type.name))
  scaling : ∀ v, fields.lookup "scaling" = some v →
    ∃ parts, v = .ofFields parts ∧ (parts.map Prod.fst).Nodup

/-- Whether a definition is what members say. -/
structure Describes (fields : List (String × Value)) (d : Definition) : Prop where
  did : (fields.lookup "did").bind Value.integer? = some (d.did.toNat : Int)
  name : fields.lookup "name" = some (.plain (.text d.name))
  description : fields.lookup "description" = some (.plain (.text d.description))
  access : fields.lookup "access" = some (.plain (.text d.access.name))
  dataType : fields.lookup "data_type" = some (.plain (.text d.dataType.name))
  layout : layout? fields = some d.layout

/-- The same member; the members of a conversion may come in another order. -/
inductive SameMember : String × Value → String × Value → Prop
  | refl (m : String × Value) : SameMember m m
  | scaling {parts parts' : List (String × Value)} : parts.Perm parts' →
    SameMember ("scaling", .ofFields parts) ("scaling", .ofFields parts')

/-- The same members in another order. -/
def Reordered (fields fields' : List (String × Value)) : Prop :=
  ∃ between, fields.Perm between ∧ List.Forall₂ SameMember between fields'

/-! ### The definition that members give -/

/-- An identifier: an integer of 16 bits without a minus sign. -/
def did? : Value → Option UInt16
  | .plain (.natural n) => if fitsUnsigned 16 n then some (.ofNat n) else none
  | _ => none

/-- The definition that the members of an entry give. -/
def ofFields? (fields : List (String × Value)) : Option Definition := do
  let did ← (fields.lookup "did").bind did?
  let name ← (fields.lookup "name").bind Value.text?
  let description ← (fields.lookup "description").bind Value.text?
  let access ← (fields.lookup "access").bind (Value.named? AccessLevel.ofName?)
  let dataType ← (fields.lookup "data_type").bind (Value.named? DataType.ofName?)
  let layout ← layout? fields
  return ⟨did, name, description, access, dataType, layout⟩

/-- With the texts that members give, the identifier and the layout decide. -/
theorem ofFields?_eq {name description : String} {access : AccessLevel} {dataType : DataType}
    (hname : fields.lookup "name" = some (.plain (.text name)))
    (hdescription : fields.lookup "description" = some (.plain (.text description)))
    (haccess : fields.lookup "access" = some (.plain (.text access.name)))
    (hdataType : fields.lookup "data_type" = some (.plain (.text dataType.name))) :
    ofFields? fields = ((fields.lookup "did").bind did?).bind fun did =>
      (layout? fields).map (⟨did, name, description, access, dataType, ·⟩) := by
  simp only [ofFields?, hname, hdescription, haccess, hdataType, Option.bind_some, Value.named?,
    Value.text?, Option.bind_eq_bind, AccessLevel.ofName?_name, DataType.ofName?_name,
    Option.map_eq_bind]
  rfl

/-- The identifier of an entry is written without a minus sign, or with one. -/
theorem IsEntry.did_cases (h : IsEntry fields) :
    (∃ n, fields.lookup "did" = some (.plain (.natural n)) ∧ n < twoPower 16) ∨
      ∃ n, fields.lookup "did" = some (.plain (.signed n)) := by
  obtain ⟨n, hn, hleast, hgreatest⟩ := h.did
  obtain ⟨v, hv, hinteger⟩ := Option.bind_eq_some_iff.1 hn
  unfold Value.integer? at hinteger
  split at hinteger
  · obtain rfl := Option.some.inj hinteger
    exact .inl ⟨_, hv, by omega⟩
  · exact .inr ⟨_, hv⟩
  · cases hinteger

/-- An entry gives a definition exactly if its identifier has no minus sign and it gives a length or
    a conversion. -/
theorem isSome_ofFields? (h : IsEntry fields) : (ofFields? fields).isSome ↔
    (∃ n, fields.lookup "did" = some (.plain (.natural n))) ∧
      ((length? fields).isSome ∨ (conversion? fields).isSome) := by
  obtain ⟨name, hname⟩ := h.name
  obtain ⟨description, hdescription⟩ := h.description
  obtain ⟨access, haccess⟩ := h.access
  obtain ⟨dataType, hdataType⟩ := h.dataType
  have hlayout : (layout? fields).isSome ↔
      (length? fields).isSome ∨ (conversion? fields).isSome := by
    simp [layout?]
  rw [ofFields?_eq hname hdescription haccess hdataType, ← hlayout]
  rcases h.did_cases with ⟨n, hdid, hn⟩ | ⟨n, hdid⟩
  · have hfits : fitsUnsigned 16 n = true := decide_eq_true hn
    simp [hdid, did?, hfits]
  · simp [hdid, did?]

/-- The definition that an entry gives is what its members say. -/
theorem describes_of_ofFields? (h : IsEntry fields) {d : Definition}
    (hd : ofFields? fields = some d) : Describes fields d := by
  obtain ⟨name, hname⟩ := h.name
  obtain ⟨description, hdescription⟩ := h.description
  obtain ⟨access, haccess⟩ := h.access
  obtain ⟨dataType, hdataType⟩ := h.dataType
  rw [ofFields?_eq hname hdescription haccess hdataType] at hd
  obtain ⟨did, hdid, hlayout⟩ := Option.bind_eq_some_iff.1 hd
  obtain ⟨layout, hgiven, rfl⟩ := Option.map_eq_some_iff.1 hlayout
  refine ⟨?_, hname, hdescription, haccess, hdataType, hgiven⟩
  rcases h.did_cases with ⟨n, hn, hbound⟩ | ⟨n, hn⟩
  · have hfits : fitsUnsigned 16 n = true := decide_eq_true hbound
    obtain rfl : UInt16.ofNat n = did := by simpa [hn, did?, hfits] using hdid
    have hcode : (UInt16.ofNat n).toNat = n := UInt16.toNat_ofNat'.trans (Nat.mod_eq_of_lt hbound)
    rw [hn, Option.bind_some, Value.integer?, hcode]
  · simp [hn, did?] at hdid

/-! ### The order of members -/

/-- The same member has the same key. -/
theorem SameMember.key_eq {m m' : String × Value} (h : SameMember m m') : m'.1 = m.1 := by
  cases h <;> rfl

/-- Besides the conversion it has the same value. -/
theorem SameMember.value_eq {key : String} {v v' : Value} (h : SameMember (key, v) (key, v'))
    (hkey : key ≠ "scaling") : v' = v := by
  cases h with
  | refl => rfl
  | scaling => exact absurd rfl hkey

namespace Reordered

/-- Keys are the same, in another order. -/
theorem keys_perm (h : Reordered fields fields') :
    (fields.map Prod.fst).Perm (fields'.map Prod.fst) := by
  obtain ⟨between, hperm, hsame⟩ := h
  have hkeys : between.map Prod.fst = fields'.map Prod.fst := by
    clear hperm
    induction hsame with
    | nil => rfl
    | cons hfirst _ ih => rw [List.map_cons, List.map_cons, ih, hfirst.key_eq]
  exact hkeys ▸ hperm.map Prod.fst

/-- Under each key there is the same member. -/
theorem lookup (h : Reordered fields fields') (hdistinct : (fields.map Prod.fst).Nodup)
    (key : String) : Option.Rel (fun v v' => SameMember (key, v) (key, v')) (fields.lookup key)
      (fields'.lookup key) := by
  obtain ⟨between, hperm, hsame⟩ := h
  rw [← lookup_perm hperm hdistinct key]
  clear hperm
  induction hsame with
  | nil => exact .none
  | @cons m m' _ _ hfirst _ ih =>
    obtain ⟨name, v⟩ := m
    obtain ⟨name', v'⟩ := m'
    obtain rfl : name' = name := hfirst.key_eq
    by_cases hkey : key = name'
    · subst hkey
      simpa [List.lookup_cons] using hfirst
    · rw [List.lookup_cons, List.lookup_cons, beq_false_of_ne hkey]
      exact ih

/-- Besides the conversion there is the same value. -/
theorem lookup_eq (h : Reordered fields fields') (hdistinct : (fields.map Prod.fst).Nodup)
    {key : String} (hkey : key ≠ "scaling") : fields'.lookup key = fields.lookup key := by
  have hrel := h.lookup hdistinct key
  generalize fields.lookup key = o at hrel ⊢
  generalize fields'.lookup key = o' at hrel ⊢
  cases hrel with
  | none => rfl
  | some hsame => rw [hsame.value_eq hkey]

/-- The members of a conversion are the same, in another order. -/
theorem scaling (h : Reordered fields fields') (hentry : IsEntry fields) :
    fields.lookup "scaling" = none ∧ fields'.lookup "scaling" = none ∨
      ∃ parts parts', fields.lookup "scaling" = some (.ofFields parts) ∧
        fields'.lookup "scaling" = some (.ofFields parts') ∧ parts.Perm parts' ∧
        (parts.map Prod.fst).Nodup := by
  have hrel := h.lookup hentry.distinct "scaling"
  have hparts := hentry.scaling
  generalize fields.lookup "scaling" = o at hrel hparts ⊢
  generalize fields'.lookup "scaling" = o' at hrel ⊢
  cases hrel with
  | none => exact .inl ⟨rfl, rfl⟩
  | some hsame =>
    obtain ⟨parts, hv, hdistinct⟩ := hparts _ rfl
    cases hsame with
    | refl => exact .inr ⟨parts, parts, by rw [hv], by rw [hv], .refl _, hdistinct⟩
    | scaling hperm =>
      obtain rfl := Value.ofFields_inj.1 hv
      exact .inr ⟨_, _, rfl, rfl, hperm, hdistinct⟩

/-- The conversion is the same. -/
theorem conversion?_eq (h : Reordered fields fields') (hentry : IsEntry fields) :
    conversion? fields' = conversion? fields := by
  rcases h.scaling hentry with ⟨hnone, hnone'⟩ | ⟨parts, parts', hparts, hparts', hperm, hdistinct⟩
  · rw [conversion?, conversion?, hnone, hnone']
  · have hlookup := lookup_perm hperm hdistinct
    simp [conversion?, hparts, hparts', hlookup]

/-- So members in another order are an entry. -/
theorem isEntry (h : Reordered fields fields') (hentry : IsEntry fields) : IsEntry fields' := by
  -- every key but that of the conversion has the same value in both
  have hlookup (key : String) (hkey : key ≠ "scaling") := h.lookup_eq hentry.distinct hkey
  constructor
  · exact h.keys_perm.nodup hentry.distinct
  · rw [hlookup "did" (by decide)]
    exact hentry.did
  · rw [hlookup "name" (by decide)]
    exact hentry.name
  · rw [hlookup "description" (by decide)]
    exact hentry.description
  · rw [hlookup "access" (by decide)]
    exact hentry.access
  · rw [hlookup "data_type" (by decide)]
    exact hentry.dataType
  · intro v hv
    rcases h.scaling hentry with ⟨-, hnone⟩ | ⟨parts, parts', -, hparts', hperm, hdistinct⟩
    · rw [hnone] at hv
      cases hv
    · rw [hparts'] at hv
      exact ⟨parts', (Option.some.inj hv).symm, (hperm.map Prod.fst).nodup hdistinct⟩

/-- And they give the same definition. -/
theorem ofFields?_eq (h : Reordered fields fields') (hentry : IsEntry fields) :
    ofFields? fields' = ofFields? fields := by
  have hlookup (key : String) (hkey : key ≠ "scaling") := h.lookup_eq hentry.distinct hkey
  have hlength : length? fields' = length? fields := by
    rw [length?, length?, hlookup "length" (by decide)]
  simp only [ofFields?, layout?, hlength, h.conversion?_eq hentry, hlookup "did" (by decide),
    hlookup "name" (by decide), hlookup "description" (by decide),
    hlookup "access" (by decide), hlookup "data_type" (by decide)]

end Reordered

/-! ### Lists of entries -/

variable {entries entries' : List (List (String × Value))}

/-- Entries with their members in another order give the same definitions. -/
theorem mapM_ofFields?_reordered (h : ∀ fields ∈ entries, IsEntry fields)
    (hsame : List.Forall₂ Reordered entries entries') :
    (∀ fields ∈ entries', IsEntry fields) ∧
      entries'.mapM ofFields? = entries.mapM ofFields? := by
  induction hsame with
  | nil => exact ⟨h, rfl⟩
  | cons hfirst _ ih =>
    obtain ⟨hentry, hrest⟩ := List.forall_mem_cons.1 h
    obtain ⟨hentries, hread⟩ := ih hrest
    refine ⟨List.forall_mem_cons.2 ⟨hfirst.isEntry hentry, hentries⟩, ?_⟩
    rw [List.mapM_cons, List.mapM_cons, hfirst.ofFields?_eq hentry, hread]

/-- The definitions that entries give are what their members say, each in its turn. -/
theorem describes_of_mapM_ofFields? (h : ∀ fields ∈ entries, IsEntry fields)
    {definitions : List Definition} (hread : entries.mapM ofFields? = some definitions) :
    List.Forall₂ Describes entries definitions := by
  rw [mapM_eq_some_iff fun _ _ => Iff.rfl] at hread
  induction hread with
  | nil => exact .nil
  | cons hfirst _ ih =>
    obtain ⟨hentry, hrest⟩ := List.forall_mem_cons.1 h
    exact .cons (describes_of_ofFields? hentry hfirst) (ih hrest)

end Definition

end SovdConfig
