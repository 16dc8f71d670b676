import SovdConfig.Json.Decoder
import SovdConfig.Proofs.Json.Reading
import SovdConfig.Proofs.Record

namespace SovdConfig.Json

/-!
# What typed readers read

A typed reader reads each value of the grammar as the result that the value has for the type, and
refuses the value if it has none.  Main definitions:

* `Decoder.Reads` — the law that ties a typed reader to the results of values;
* `Tree.asString?`, `Tree.asList?`, `Tree.asRecord?`, … — the results, one for each kind of reader;
* `Tree.parts?` — the named parts of a record, from an object or from a list in order.

Main statements:

* `Decoder.string_reads`, `Decoder.list_reads`, `Decoder.record_reads`, … — the law for each of
  them;
* `Decoder.toOption_ofText` — a whole text is read as the result of its value.
-/

variable {α β σ : Type}

/-! ### Results of values -/

/-- The integer from zero to a limit that a number is. -/
def upTo? (limit : Nat) : JsonNumber → Option Nat
  | .integer n => if 0 ≤ n ∧ n ≤ limit then some n.toNat else none
  | .double _ => none

namespace Tree

/-- The text that a value is. -/
def asString? : Tree → Option String
  | string s => some s
  | _ => none

/-- The integer from zero to a limit that a value is. -/
def asUnsigned? (limit : Nat) : Tree → Option Nat
  | number l => l.number?.bind (upTo? limit)
  | _ => none

/-- The result of a value that may be `null`. -/
def asOptional? (sem : Tree → Option α) : Tree → Option (Option α)
  | null => some none
  | v => (sem v).map some

/-- The results of the items of a list. -/
def asList? (sem : Tree → Option α) : Tree → Option (List α)
  | array items => items.mapM sem
  | _ => none

/-- Whether a value is empty. -/
def asEmpty? : Tree → Option Unit
  | null => some ()
  | _ => none

/-- The named alternative that a value is: its name, or an object whose only member has that name
    and is empty. -/
def asVariant? (ofName? : String → Option α) : Tree → Option α
  | string name => ofName? name
  | object [(name, v)] => (ofName? name).bind fun a => v.asEmpty?.map fun () => a
  | _ => none

/-- The parts of a record with the given names: the members of an object in which none of the names
    occurs twice, or the items of a list that is not too long, in the order of the names. -/
def parts? (names : List String) : Tree → Option (List (String × Tree))
  | object members =>
    if ∀ name ∈ names, (members.map Prod.fst).count name ≤ 1 then some members else none
  | array items => if items.length ≤ names.length then some (names.zip items) else none
  | _ => none

/-- The record with the parts that a value has. -/
def asRecord? (slots : List (Slot Tree σ)) (default : σ) (v : Tree) : Option σ :=
  (v.parts? (slots.map Slot.key)).bind fun parts => fill slots parts default

end Tree

/-! ### First characters -/

namespace Tree.Leads

variable {v : Tree} {c : Char}

/-- A quote leads a text. -/
theorem eq_string (h : v.Leads '"') : ∃ s, v = .string s := by
  cases v with
  | string s => exact ⟨s, rfl⟩
  | bool b => cases b <;> simp [Leads] at h
  | _ => simp [Leads] at h

/-- Only `null` starts with this letter. -/
theorem eq_null (h : v.Leads 'n') : v = .null := by
  cases v with
  | null => rfl
  | bool b => cases b <;> simp [Leads] at h
  | _ => simp [Leads] at h

/-- An opening bracket leads a list. -/
theorem eq_array (h : v.Leads '[') : ∃ items, v = .array items := by
  cases v with
  | array items => exact ⟨items, rfl⟩
  | bool b => cases b <;> simp [Leads] at h
  | _ => simp [Leads] at h

/-- An opening brace leads an object. -/
theorem eq_object (h : v.Leads '\x7b') : ∃ members, v = .object members := by
  cases v with
  | object members => exact ⟨members, rfl⟩
  | bool b => cases b <;> simp [Leads] at h
  | _ => simp [Leads] at h

/-- A sign or a digit leads a number. -/
theorem eq_number (h : v.Leads c) (hc : c = '-' ∨ c.isDigit) : ∃ l, v = .number l := by
  cases v with
  | number l => exact ⟨l, rfl⟩
  | bool b => cases b <;> simp only [Leads] at h <;> subst h <;> simp at hc
  | _ => simp only [Leads] at h; subst h; simp at hc

end Tree.Leads

/-! ### The law -/

namespace Decoder

/-- Whether a typed reader reads each value that is not nested too deep as the result that it
    has. -/
def Reads (d : Decoder α) (sem : Tree → Option α) : Prop :=
  ∀ cs v depth, Denotes cs v → v.depth < depth → ReadsAs (d.read depth) cs (sem v)

/-- What is read may be passed through a function. -/
theorem map_reads {d : Decoder α} {sem : Tree → Option α} (h : d.Reads sem) (f : α → β) :
    (d.map f).Reads fun v => (sem v).map f := by
  intro cs v depth hcs hdepth blank rest hblank hrest
  simp only [map, toOption_map, h cs v depth hcs hdepth blank rest hblank hrest]
  cases sem v <;> rfl

/-- A text is read, and nothing else. -/
theorem string_reads : string.Reads Tree.asString? := by
  intro cs v depth hcs hdepth blank rest hblank hrest
  obtain ⟨c, tail, rfl, hc, hleads⟩ := exists_cons_of_denotes hcs
  simp only [string, List.cons_append]
  rw [skipBlank_append_cons hblank hc]
  by_cases hquote : c = '"'
  · subst hquote
    obtain ⟨s, rfl⟩ := hleads.eq_string
    cases hcs with
    | string h => simp [readString_append h, Tree.asString?]
  · have hresult : v.asString? = none := by
      cases v <;> first | rfl | exact absurd hleads hquote
    split
    · next heq => exact absurd (List.cons.inj heq).1 hquote
    · rw [hresult]; rfl

/-- A number fits a limit if it is an integer up to there. -/
theorem toOption_fitUnsigned (limit : Nat) (typeName : String) (n : JsonNumber) :
    (fitUnsigned limit typeName n).toOption = upTo? limit n := by
  cases n with
  | integer n => by_cases h : 0 ≤ n ∧ n ≤ limit <;> simp [fitUnsigned, upTo?, h]
  | double x => rfl

/-- A number that has been read is fitted, and what remains is kept. -/
theorem toOption_fitRead (limit : Nat) (typeName : String)
    (r : Except Failure (JsonNumber × List Char)) :
    (match r with
      | .error e => .error e
      | .ok (n, rest) =>
        match fitUnsigned limit typeName n with
        | .ok n => .ok (n, rest)
        | .error m => .error (.before (.shape m) rest) :
      Except Failure (Nat × List Char)).toOption =
    r.toOption.bind fun (n, rest) => (upTo? limit n).map (·, rest) := by
  rcases r with e | ⟨n, rest⟩
  · rfl
  · have hn := toOption_fitUnsigned limit typeName n
    simp only [toOption_ok, Option.bind_some, ← hn]
    cases fitUnsigned limit typeName n <;> rfl

/-- What a number stands for is an integer in a range if it fits there. -/
theorem asUnsigned?_number (limit : Nat) (l : Literal) (rest : List Char) :
    ((l.number?.map (·, rest)).bind fun (n, rest) => (upTo? limit n).map (·, rest)) =
      (Tree.asUnsigned? limit (.number l)).map (·, rest) := by
  rw [Tree.asUnsigned?]
  cases l.number? <;> rfl

/-- An integer in a range is read, and nothing else. -/
theorem unsigned_reads (limit : Nat) (typeName : String) :
    (unsigned limit typeName).Reads (Tree.asUnsigned? limit) := by
  intro cs v depth hcs hdepth blank rest hblank hrest
  obtain ⟨c, tail, rfl, hc, hleads⟩ := exists_cons_of_denotes hcs
  simp only [unsigned, List.cons_append]
  rw [skipBlank_append_cons hblank hc]
  by_cases hnumber : c = '-' ∨ c.isDigit
  · obtain ⟨l, rfl⟩ := hleads.eq_number hnumber
    cases hcs with
    | number h =>
      obtain ⟨d, tail', heq, hread⟩ := h.read_append
      obtain ⟨rfl, rfl⟩ := List.cons.inj heq
      rcases hread with ⟨rfl, hread⟩ | ⟨hdigit, hread⟩
      · simp only [if_true]
        refine (toOption_fitRead limit typeName _).trans ?_
        rw [hread rest hrest, asUnsigned?_number]
      · obtain ⟨-, -, -, hsign, -, -⟩ := startsNumber_of_isDigit hdigit
        simp only [hsign, hdigit, if_false, if_true]
        refine (toOption_fitRead limit typeName _).trans ?_
        rw [hread rest hrest, asUnsigned?_number]
  · have hresult : v.asUnsigned? limit = none := by
      cases v <;> first | rfl | exact absurd hleads hnumber
    obtain ⟨hsign, hdigit⟩ := not_or.1 hnumber
    simp only [hsign, hdigit, if_false, hresult]
    rfl

/-- A value that may be `null` is read as such. -/
theorem optional_reads {d : Decoder α} {sem : Tree → Option α} (h : d.Reads sem) :
    (optional d).Reads (Tree.asOptional? sem) := by
  intro cs v depth hcs hdepth blank rest hblank hrest
  obtain ⟨c, tail, rfl, hc, hleads⟩ := exists_cons_of_denotes hcs
  have hread := (h _ v depth hcs hdepth).toOption hrest
  simp only [optional, List.cons_append] at hread ⊢
  rw [skipBlank_append_cons hblank hc]
  by_cases hnull : c = 'n'
  · subst hnull
    obtain rfl := hleads.eq_null
    cases hcs with
    | null =>
      have hword := readWord_append ['u', 'l', 'l'] rest
      simp only [List.cons_append, List.nil_append] at hword ⊢
      simp [hword, Tree.asOptional?, Except.map]
  · have hresult : Tree.asOptional? sem v = (sem v).map some := by
      cases v <;> first | rfl | exact absurd hleads hnull
    split
    · next heq => exact absurd (List.cons.inj heq).1 hnull
    · rw [toOption_map, hread, hresult]
      cases sem v <;> rfl

/-- A list is read item by item, and nothing else. -/
theorem list_reads {d : Decoder α} {sem : Tree → Option α} (h : d.Reads sem) :
    (list d).Reads (Tree.asList? sem) := by
  intro cs v depth hcs hdepth blank rest hblank hrest
  obtain ⟨c, tail, rfl, hc, hleads⟩ := exists_cons_of_denotes hcs
  simp only [list, List.cons_append]
  rw [skipBlank_append_cons hblank hc]
  by_cases hbracket : c = '['
  · subst hbracket
    obtain ⟨items, rfl⟩ := hleads.eq_array
    rw [Tree.depth] at hdepth
    cases hcs with
    | @array cs _ hitems =>
      have hitem : ∀ a ∈ items, ∀ cs, Denotes cs a →
          StartsItem ']' cs ∧ ReadsAs (d.read (depth - 1)) cs (sem a) := fun a ha cs hcs =>
        ⟨startsItem_of_denotes hcs, h cs a (depth - 1) hcs (by
          have := Tree.depth_le_depthAll ha
          omega)⟩
      have hinside := toOption_inList (show 1 < depth by omega)
        (fun depth cs => readItems (d.read depth) (cs.length + 1) true cs)
        (hitems.readItems_append hitem) rest
      simpa [Tree.asList?] using hinside
  · have hresult : Tree.asList? sem v = none := by
      cases v <;> first | rfl | exact absurd hleads hbracket
    split
    · next heq => exact absurd (List.cons.inj heq).1 hbracket
    · rw [hresult]; rfl

/-! ### Named alternatives -/

/-- The empty value of an alternative is passed over, and no other value. -/
theorem toOption_readEmpty {cs : List Char} {v : Tree} (h : Denotes cs v) {blank : List Char}
    (hblank : IsBlankText blank) (rest : List Char) :
    (readEmpty (blank ++ (cs ++ rest))).toOption = v.asEmpty?.map fun () => rest := by
  obtain ⟨c, tail, rfl, hc, hleads⟩ := exists_cons_of_denotes h
  simp only [readEmpty, List.cons_append]
  rw [skipBlank_append_cons hblank hc]
  by_cases hnull : c = 'n'
  · subst hnull
    obtain rfl := hleads.eq_null
    cases h with
    | null =>
      have hword := readWord_append ['u', 'l', 'l'] rest
      simp only [List.cons_append, List.nil_append] at hword ⊢
      simp [hword, Tree.asEmpty?]
  · have hresult : v.asEmpty? = none := by
      cases v <;> first | rfl | exact absurd hleads hnull
    split
    · next heq => exact absurd (List.cons.inj heq).1 hnull
    · rw [hresult]; rfl

/-- The name of an alternative is read up to its end. -/
theorem toOption_readName (known : List String) (ofName? : String → Option α)
    {name label : List Char} (h : StringText name label) (rest : List Char) :
    (do let (text, rest) ← readString (name ++ '"' :: rest)
        match variantOf known ofName? text with
        | .ok a => .ok (a, rest)
        | .error m => .error (.before (.shape m) rest) :
      Except Failure (α × List Char)).toOption =
        (ofName? (String.ofList label)).map (·, rest) := by
  simp only [readString_append h, ok_bind, variantOf]
  cases ofName? (String.ofList label) <;> rfl

/-- An object is read as an alternative if it has one member, with its name and an empty value. -/
theorem toOption_variant_object (known : List String) (ofName? : String → Option α)
    {cs : List Char} {members : List (String × Tree)}
    (hmembers : ItemsText (MemberText Denotes) cs members) {depth : Nat} (hdepth : 1 < depth)
    {blank : List Char} (hblank : IsBlankText blank) (rest : List Char) :
    ((variant known ofName?).read depth (blank ++ '\x7b' :: (cs ++ '\x7d' :: rest))).toOption =
      (Tree.asVariant? ofName? (.object members)).map (·, rest) := by
  simp only [variant]
  rw [skipBlank_append_cons hblank (by decide)]
  simp only [Char.reduceEq, if_false, if_true, if_neg (Nat.not_le.2 hdepth)]
  cases hmembers with
  | none hgap =>
    simp [skipBlank_append_cons hgap (c := '\x7d') rfl, Tree.asVariant?]
  | @some gap member tail m members hgap hm htail =>
    -- what follows a name is looked at only if the name is known
    obtain @⟨name, label, before, after, cs, v, hlabel, hbefore, hafter, hv⟩ := hm
    have hread := toOption_readName known ofName? hlabel
      (before ++ ':' :: (after ++ (cs ++ (tail ++ '\x7d' :: rest))))
    have hempty := toOption_readEmpty hv hafter (tail ++ '\x7d' :: rest)
    simp only [List.append_assoc, List.cons_append]
    rw [skipBlank_append_cons hgap (by decide)]
    simp only
    rw [toOption_bind]
    refine (congrArg (Option.bind · _) hread).trans ?_
    rcases hfound : ofName? (String.ofList label) with - | a
    · cases members <;> simp [Tree.asVariant?, hfound]
    simp only [Option.map_some, Option.bind_some, readColon_append hbefore, toOption_bind,
      toOption_ok, hempty]
    rcases hnull : v.asEmpty? with - | ⟨⟨⟩⟩
    · cases members <;> simp [Tree.asVariant?, hfound, hnull]
    simp only [Option.map_some, Option.bind_some]
    -- one member is all that may be there
    cases htail with
    | done hend =>
      rw [skipBlank_append_cons hend (by decide)]
      simp [Tree.asVariant?, hfound, hnull]
    | more hcomma _ _ _ =>
      simp only [List.append_assoc, List.cons_append]
      rw [skipBlank_append_cons hcomma (by decide)]
      simp [Tree.asVariant?]

/-- One of several named alternatives is read, and nothing else. -/
theorem variant_reads (known : List String) (ofName? : String → Option α) :
    (variant known ofName?).Reads (Tree.asVariant? ofName?) := by
  intro cs v depth hcs hdepth blank rest hblank hrest
  obtain ⟨c, tail, rfl, hc, hleads⟩ := exists_cons_of_denotes hcs
  by_cases hbrace : c = '\x7b'
  · subst hbrace
    obtain ⟨members, rfl⟩ := hleads.eq_object
    rw [Tree.depth] at hdepth
    cases hcs with
    | @object cs _ hmembers =>
      simpa using toOption_variant_object known ofName? hmembers (by omega) hblank rest
  · simp only [variant, List.cons_append]
    rw [skipBlank_append_cons hblank hc]
    by_cases hquote : c = '"'
    · subst hquote
      obtain ⟨s, rfl⟩ := hleads.eq_string
      cases hcs with
      | string h =>
        simp only [if_true, List.append_assoc, List.cons_append, List.nil_append]
        exact toOption_readName known ofName? h rest
    · -- nothing else is the name of a variant
      have hresult : Tree.asVariant? ofName? v = none := by
        cases v with
        | string s => exact absurd hleads hquote
        | object members => exact absurd hleads hbrace
        | _ => rfl
      simp only [hquote, hbrace, if_false, hresult]
      rfl

/-! ### Records -/

section

variable {fields : List (Field σ)} {slots : List (Slot Tree σ)}

/-- Whether slots say for the fields of a structure, one by one, what is read into them. -/
def Matches (fields : List (Field σ)) (slots : List (Slot Tree σ)) : Prop :=
  List.Forall₂ (fun f slot => slot.key = f.name ∧ f.update.Reads slot.read) fields slots

/-- A field of some type matches the slot that takes what its typed reader reads. -/
theorem field_matches {d : Decoder α} {sem : Tree → Option α} (h : d.Reads sem) (name : String)
    (set : α → σ → σ) :
    (Slot.ofField name sem set).key = (field name d set).name ∧
      (field name d set).update.Reads (Slot.ofField name sem set).read :=
  ⟨rfl, map_reads h set⟩

/-- A name that is sought among the fields is found if it is among the slots. -/
theorem Matches.find? (h : Matches fields slots) (name : String) :
    (fields.find? (·.name = name) = none ∧ slotOf? slots name = none) ∨
      ∃ f slot, fields.find? (·.name = name) = some f ∧ slotOf? slots name = some slot ∧
        f.update.Reads slot.read := by
  induction h with
  | nil => exact Or.inl ⟨rfl, rfl⟩
  | @cons f slot fields slots hfield _ ih =>
    obtain ⟨hkey, hreads⟩ := hfield
    by_cases hname : f.name = name
    · exact Or.inr ⟨f, slot, by simp [hname], by simp [slotOf?, hkey, hname], hreads⟩
    · have hskip : slotOf? (slot :: slots) name = slotOf? slots name := by
        simp [slotOf?, hkey, hname]
      have hskip' : (f :: fields).find? (·.name = name) = fields.find? (·.name = name) := by
        simp [hname]
      rw [hskip, hskip']
      exact ih

/-- The record with the members of an object, if no name of a slot occurs twice among the members
    and the names that were seen before them. -/
def fillOnce (slots : List (Slot Tree σ)) (seen : List String) (members : List (String × Tree))
    (s : σ) : Option σ :=
  if ∀ slot ∈ slots, seen.count slot.key + (members.map Prod.fst).count slot.key ≤ 1 then
    fill slots members s
  else none

/-- A member of an object changes the record if its name has a slot and has not been seen. -/
theorem fillOnce_cons (seen : List String) (m : String × Tree) (members : List (String × Tree))
    (s : σ) :
    fillOnce slots seen (m :: members) s =
      match slotOf? slots m.1 with
      | none => fillOnce slots (m.1 :: seen) members s
      | some slot =>
        if m.1 ∈ seen then none
        else (slot.read m.2).bind fun update =>
          fillOnce slots (m.1 :: seen) members (update s) := by
  -- the name moves from the members to those seen
  have hmove : ∀ key, (m.1 :: seen).count key + (members.map Prod.fst).count key =
      seen.count key + ((m :: members).map Prod.fst).count key := by
    intro key
    rw [List.map_cons, List.count_cons, List.count_cons]
    omega
  simp only [fillOnce, hmove]
  rcases hslot : slotOf? slots m.1 with - | slot
  · simp only [fill, hslot]
  · obtain ⟨hkey, hmem⟩ := key_of_slotOf? hslot
    by_cases hseen : m.1 ∈ seen
    · have htwice : ¬ ∀ slot ∈ slots,
          seen.count slot.key + ((m :: members).map Prod.fst).count slot.key ≤ 1 := by
        intro hall
        have hcount := hall slot hmem
        have hpos := List.count_pos_iff.2 hseen
        rw [hkey, List.map_cons, List.count_cons_self] at hcount
        omega
      simp only [if_neg htwice, if_pos hseen]
    · simp only [fill, hslot, if_neg hseen]
      split
      · rfl
      · cases slot.read m.2 <;> rfl

/-- One more member of an object is read into the record or passed over. -/
theorem toOption_readFields_succ (h : Matches fields slots) {depth : Nat} {seen : List String}
    {text cs rest : List Char} {m : String × Tree}
    (hnext : nextName seen.isEmpty text = .ok (some (cs ++ rest)))
    (hm : MemberText Denotes ('"' :: cs) m) (hdepth : m.2.depth < depth) (hrest : EndsValue rest)
    (fuel : Nat) (s : σ) :
    (readFields fields depth (fuel + 1) seen s text).toOption =
      match slotOf? slots m.1 with
      | none => (readFields fields depth fuel (m.1 :: seen) s rest).toOption
      | some slot =>
        if m.1 ∈ seen then none
        else (slot.read m.2).bind fun update =>
          (readFields fields depth fuel (m.1 :: seen) (update s) rest).toOption := by
  obtain @⟨name, label, gap, gap', cs, v, hname, hgap, hgap', hv⟩ := hm
  rw [readFields, hnext, ok_bind]
  simp only [List.append_assoc, List.cons_append, readString_append hname, ok_bind]
  rcases h.find? (String.ofList label) with ⟨hfield, hslot⟩ | ⟨f, slot, hfield, hslot, hreads⟩
  · simp only [hfield, hslot, readColon_append hgap, ok_bind,
      skipValue_append hv gap' rest hgap' hrest]
  · simp only [hfield, hslot]
    by_cases hseen : String.ofList label ∈ seen
    · simp only [hseen, if_true, toOption_error]
    · have hread := hreads cs v depth hv hdepth gap' rest hgap' hrest
      simp only [hseen, if_false, readColon_append hgap, ok_bind, toOption_bind, hread]
      cases slot.read v <;> rfl

/-- The names that were seen before a member and the member's own name are still without
    repetitions, unless the member repeats one that has a slot. -/
theorem count_cons_le {seen : List String} {name : String}
    (honce : ∀ slot ∈ slots, seen.count slot.key ≤ 1)
    (hname : ∀ slot, slotOf? slots name = some slot → name ∉ seen) :
    ∀ slot ∈ slots, (name :: seen).count slot.key ≤ 1 := by
  intro slot hslot
  by_cases hkey : name = slot.key
  · obtain ⟨found, hfound⟩ : ∃ found, slotOf? slots name = some found :=
      Option.isSome_iff_exists.1 (List.find?_isSome.2 ⟨slot, hslot, by simp [hkey]⟩)
    have hzero := List.count_eq_zero.2 (hname found hfound)
    have hcount : (name :: seen).count slot.key = 1 := by
      rw [← hkey, List.count_cons_self, hzero]
    exact Nat.le_of_eq hcount
  · rw [List.count_cons_of_ne hkey]
    exact honce slot hslot

/-- Further members of an object are read into the record. -/
theorem readFields_tail (h : Matches fields slots) {cs : List Char}
    {members : List (String × Tree)} (hcs : TailText (MemberText Denotes) cs members) {depth : Nat}
    (hdepth : ∀ m ∈ members, m.2.depth < depth) {seen : List String} (hseen : seen ≠ [])
    (honce : ∀ slot ∈ slots, seen.count slot.key ≤ 1) (fuel : Nat) (hfuel : cs.length < fuel)
    (s : σ) :
    ReadsBefore '\x7d' (readFields fields depth fuel seen s) cs
      (fillOnce slots seen members s) := by
  intro rest
  induction hcs generalizing fuel seen s with
  | @done blank hblank =>
    obtain ⟨fuel, rfl⟩ := Nat.exists_eq_add_one_of_ne_zero (Nat.ne_zero_of_lt hfuel)
    refine ⟨blank, hblank, ?_⟩
    have hresult : fillOnce slots seen [] s = some s := by simpa [fillOnce, fill] using honce
    simp [readFields, nextName_done _ hblank, hresult]
    rfl
  | @more before after member tail m members hbefore hafter hm htail ih =>
    obtain ⟨fuel, rfl⟩ := Nat.exists_eq_add_one_of_ne_zero (Nat.ne_zero_of_lt hfuel)
    obtain ⟨cs, rfl⟩ := hm.exists_cons
    simp only [List.length_append, List.length_cons] at hfuel
    have hempty : seen.isEmpty = false := by simpa using hseen
    have htext : before ++ ',' :: (after ++ ('"' :: cs ++ tail)) ++ '\x7d' :: rest =
        before ++ ',' :: (after ++ '"' :: (cs ++ (tail ++ '\x7d' :: rest))) := by simp
    have hnext : nextName seen.isEmpty
        (before ++ ',' :: (after ++ '"' :: (cs ++ (tail ++ '\x7d' :: rest)))) =
          .ok (some (cs ++ (tail ++ '\x7d' :: rest))) := by
      rw [hempty, nextName_more hbefore hafter]
    have hmore := fun honce s => ih (fun m hm => hdepth m (by simp [hm]))
      (List.cons_ne_nil m.1 seen) honce fuel (by omega) s
    rw [htext, toOption_readFields_succ h hnext hm (hdepth m (by simp))
      (htail.endsValue (Or.inr rfl) rest), fillOnce_cons]
    -- a name that is not known is passed over, and one that was seen before is a fault
    rcases hslot : slotOf? slots m.1 with - | slot
    · exact hmore (count_cons_le honce fun slot hfound => by simp [hslot] at hfound) s
    · by_cases hrepeat : m.1 ∈ seen
      · exact ⟨[], by simp [IsBlankText], by simp [hrepeat]⟩
      · simp only [hrepeat, if_false]
        rcases slot.read m.2 with - | update
        · exact ⟨[], by simp [IsBlankText], rfl⟩
        · exact hmore (count_cons_le honce fun _ _ => hrepeat) (update s)

/-- The members of an object are read into the record. -/
theorem readFields_items (h : Matches fields slots) {cs : List Char}
    {members : List (String × Tree)} (hcs : ItemsText (MemberText Denotes) cs members) {depth : Nat}
    (hdepth : ∀ m ∈ members, m.2.depth < depth) (s : σ) :
    ReadsBefore '\x7d' (fun text => readFields fields depth (text.length + 1) [] s text) cs
      (fillOnce slots [] members s) := by
  intro rest
  cases hcs with
  | none hblank =>
    refine ⟨cs, hblank, ?_⟩
    have hresult : fillOnce slots [] [] s = some s := by simp [fillOnce, fill]
    simp [readFields, nextName_done _ hblank, hresult]
    rfl
  | @some blank member tail m members hblank hm htail =>
    obtain ⟨cs, rfl⟩ := hm.exists_cons
    have htext : blank ++ ('"' :: cs ++ tail) ++ '\x7d' :: rest =
        blank ++ '"' :: (cs ++ (tail ++ '\x7d' :: rest)) := by simp
    have honce : ∀ slot ∈ slots, [m.1].count slot.key ≤ 1 :=
      count_cons_le (by simp) (by simp)
    have hmore := fun s => readFields_tail h htail (fun m hm => hdepth m (by simp [hm]))
      (List.cons_ne_nil m.1 []) honce (blank ++ ('"' :: cs ++ tail) ++ '\x7d' :: rest).length
      (by simp; omega) s rest
    have hnext : nextName ([] : List String).isEmpty
        (blank ++ '"' :: (cs ++ (tail ++ '\x7d' :: rest))) =
          .ok (some (cs ++ (tail ++ '\x7d' :: rest))) := nextName_first hblank _
    simp only [htext] at hmore ⊢
    rw [toOption_readFields_succ h hnext hm (hdepth m (by simp))
      (htail.endsValue (Or.inr rfl) rest), fillOnce_cons]
    rcases hslot : slotOf? slots m.1 with - | slot
    · exact hmore s
    · simp only [List.not_mem_nil, if_false]
      rcases slot.read m.2 with - | update
      · exact ⟨[], by simp [IsBlankText], rfl⟩
      · exact hmore (update s)

/-! ### Records in lists -/

/-- After the items that a record takes, a list ends or is refused as too long. -/
theorem toOption_closeList {cs : List Char} {items : List Tree} (h : TailText Denotes cs items)
    (rest : List Char) :
    (closeList (cs ++ ']' :: rest)).toOption = if items = [] then some rest else none := by
  cases h with
  | done hblank => simp [closeList_append hblank]
  | @more before after cs tail a as hbefore hafter ha htail =>
    obtain ⟨c, cs, rfl, hc, -⟩ := exists_cons_of_denotes ha
    have htext : before ++ ',' :: (after ++ (c :: cs ++ tail)) ++ ']' :: rest =
        before ++ ',' :: (after ++ c :: (cs ++ (tail ++ ']' :: rest))) := by simp
    rw [htext]
    simp [closeList, skipBlank_append_cons hbefore (c := ',') rfl, skipBlank_append_cons hafter hc]

/-- Whether a reader takes some items of a list, reads them as the given result, and leaves the
    others. -/
def TakesItems (body : Reader σ) (cs : List Char) (result : Option σ) (left : List Tree) : Prop :=
  ∀ rest, (result = none ∧ (body (cs ++ ']' :: rest)).toOption = none) ∨
    ∃ s cs', result = some s ∧ TailText Denotes cs' left ∧
      (body (cs ++ ']' :: rest)).toOption = some (s, cs' ++ ']' :: rest)

/-- The part under the name of the first slot is read into it. -/
theorem fill_zip_cons {all : List (Slot Tree σ)} {slot : Slot Tree σ}
    (hslot : slotOf? all slot.key = some slot) (slots : List (Slot Tree σ)) (v : Tree)
    (items : List Tree) (s : σ) :
    fill all (((slot :: slots).map Slot.key).zip (v :: items)) s =
      (slot.read v).bind fun update => fill all ((slots.map Slot.key).zip items) (update s) := by
  simp [fill, hslot]

/-- One more item of a list is read into the slot at its place. -/
theorem toOption_readTuple_cons {f : Field σ} {slot : Slot Tree σ}
    (hreads : f.update.Reads slot.read) {isFirst : Bool} {text cs rest : List Char} {v : Tree}
    {depth : Nat}
    (hnext : nextItem isFirst text = .ok (some (cs ++ rest))) (hv : Denotes cs v)
    (hdepth : v.depth < depth) (hrest : EndsValue rest) (fields : List (Field σ)) (s : σ) :
    (readTuple depth (f :: fields) isFirst s text).toOption =
      (slot.read v).bind fun update =>
        (readTuple depth fields false (update s) rest).toOption := by
  have hread := (hreads cs v depth hv hdepth).toOption hrest
  rw [readTuple, hnext, ok_bind]
  simp only [toOption_bind, hread]
  cases slot.read v <;> rfl

/-- Further items of a list are read into the slots at their places, as many as there are. -/
theorem readTuple_tail {all : List (Slot Tree σ)} (h : Matches fields slots)
    (hall : ∀ slot ∈ slots, slotOf? all slot.key = some slot) {cs : List Char} {items : List Tree}
    (hcs : TailText Denotes cs items) {depth : Nat} (hdepth : ∀ v ∈ items, v.depth < depth)
    (s : σ) :
    TakesItems (readTuple depth fields false s) cs
      (fill all ((slots.map Slot.key).zip items) s) (items.drop slots.length) := by
  intro rest
  induction h generalizing cs items s with
  | nil => exact Or.inr ⟨s, cs, rfl, hcs, rfl⟩
  | @cons f slot fields slots hfield hfields ih =>
    cases hcs with
    | @done blank hblank =>
      refine Or.inr ⟨s, cs, rfl, .done hblank, ?_⟩
      simp [readTuple, nextItem_done false hblank]
      rfl
    | @more before after cs tail v items hbefore hafter hv htail =>
      have hstart := startsItem_of_denotes hv
      have htext : before ++ ',' :: (after ++ (cs ++ tail)) ++ ']' :: rest =
          before ++ ',' :: (after ++ (cs ++ (tail ++ ']' :: rest))) := by simp
      rw [htext, toOption_readTuple_cons hfield.2 (nextItem_more hbefore hafter hstart _) hv
        (hdepth v (by simp)) (htail.endsValue (Or.inl rfl) rest),
        fill_zip_cons (hall slot (by simp))]
      rcases slot.read v with - | update
      · exact Or.inl ⟨rfl, rfl⟩
      · exact ih (fun slot hslot => hall slot (by simp [hslot])) htail
          (fun v hv => hdepth v (by simp [hv])) (update s)

/-- The items of a list are read into the slots at their places, as many as there are. -/
theorem readTuple_items (h : Matches fields slots) (hne : slots ≠ [])
    (hnodup : (slots.map Slot.key).Nodup) {cs : List Char} {items : List Tree}
    (hcs : ItemsText Denotes cs items) {depth : Nat} (hdepth : ∀ v ∈ items, v.depth < depth)
    (s : σ) :
    TakesItems (readTuple depth fields true s) cs
      (fill slots ((slots.map Slot.key).zip items) s) (items.drop slots.length) := by
  intro rest
  have hall : ∀ slot ∈ slots, slotOf? slots slot.key = some slot :=
    fun slot hslot => slotOf?_of_mem hnodup hslot
  cases h with
  | nil => exact absurd rfl hne
  | @cons f slot fields slots hfield hfields =>
    cases hcs with
    | none hblank =>
      refine Or.inr ⟨s, cs, rfl, .done hblank, ?_⟩
      simp [readTuple, nextItem_done true hblank]
      rfl
    | @some blank cs tail v items hblank hv htail =>
      have hstart := startsItem_of_denotes hv
      have htext : blank ++ (cs ++ tail) ++ ']' :: rest =
          blank ++ (cs ++ (tail ++ ']' :: rest)) := by simp
      rw [htext, toOption_readTuple_cons hfield.2 (nextItem_first hblank hstart _) hv
        (hdepth v (by simp)) (htail.endsValue (Or.inl rfl) rest),
        fill_zip_cons (hall slot (by simp))]
      rcases slot.read v with - | update
      · exact Or.inl ⟨rfl, rfl⟩
      · exact readTuple_tail hfields (fun slot hslot => hall slot (by simp [hslot])) htail
          (fun v hv => hdepth v (by simp [hv])) (update s) rest

/-- A record is read from a list of its parts, in the order of the fields. -/
theorem toOption_record_array (h : Matches fields slots) (hne : slots ≠ [])
    (hnodup : (slots.map Slot.key).Nodup) (typeName : String) (default : σ) {cs : List Char}
    {items : List Tree} (hitems : ItemsText Denotes cs items) {depth : Nat}
    (hdepth : (Tree.array items).depth < depth) {blank : List Char} (hblank : IsBlankText blank)
    (rest : List Char) :
    ((record typeName fields default).read depth (blank ++ '[' :: (cs ++ ']' :: rest))).toOption =
      (Tree.asRecord? slots default (.array items)).map (·, rest) := by
  rw [Tree.depth] at hdepth
  have hinner : ∀ v ∈ items, v.depth < depth - 1 := fun v hv => by
    have := Tree.depth_le_depthAll hv
    omega
  simp only [record]
  rw [skipBlank_append_cons hblank (by decide)]
  simp only [if_true, inList]
  rw [toOption_inContainer (by omega)]
  rcases readTuple_items h hne hnodup hitems hinner default rest with
    ⟨hresult, hread⟩ | ⟨s, cs', hresult, htail, hread⟩
  · rw [hread]
    simp only [Tree.asRecord?, Tree.parts?, List.length_map]
    split <;> simp [hresult]
  · rw [hread]
    simp only [Option.bind_some, toOption_closeList htail, Tree.asRecord?, Tree.parts?,
      List.length_map, List.drop_eq_nil_iff]
    split <;> simp [hresult]

/-- A record is read from an object in which each part stands behind its name, once. -/
theorem toOption_record_object (h : Matches fields slots) (typeName : String) (default : σ)
    {cs : List Char} {members : List (String × Tree)}
    (hmembers : ItemsText (MemberText Denotes) cs members) {depth : Nat}
    (hdepth : (Tree.object members).depth < depth) {blank : List Char}
    (hblank : IsBlankText blank) (rest : List Char) :
    ((record typeName fields default).read depth
        (blank ++ '\x7b' :: (cs ++ '\x7d' :: rest))).toOption =
      (Tree.asRecord? slots default (.object members)).map (·, rest) := by
  rw [Tree.depth] at hdepth
  have hinner : ∀ m ∈ members, m.2.depth < depth - 1 := fun m hm => by
    have := Tree.depth_le_depthMembers hm
    omega
  have hinside := toOption_inObject (show 1 < depth by omega)
    (fun depth text => readFields fields depth (text.length + 1) [] default text)
    (readFields_items h hmembers hinner default) rest
  simp only [record]
  rw [skipBlank_append_cons hblank (by decide)]
  simp only [Char.reduceEq, if_false, if_true]
  rw [hinside]
  simp only [fillOnce, Tree.asRecord?, Tree.parts?, List.forall_mem_map, List.count_nil,
    Nat.zero_add]
  split <;> rfl

/-- A record is read from an object or from a list, and from nothing else. -/
theorem record_reads (h : Matches fields slots) (hne : slots ≠ [])
    (hnodup : (slots.map Slot.key).Nodup) (typeName : String) (default : σ) :
    (record typeName fields default).Reads (Tree.asRecord? slots default) := by
  intro cs v depth hcs hdepth blank rest hblank hrest
  obtain ⟨c, tail, rfl, hc, hleads⟩ := exists_cons_of_denotes hcs
  by_cases hbracket : c = '['
  · subst hbracket
    obtain ⟨items, rfl⟩ := hleads.eq_array
    cases hcs with
    | @array cs _ hitems =>
      simpa using toOption_record_array h hne hnodup typeName default hitems hdepth hblank rest
  by_cases hbrace : c = '\x7b'
  · subst hbrace
    obtain ⟨members, rfl⟩ := hleads.eq_object
    cases hcs with
    | @object cs _ hmembers =>
      simpa using toOption_record_object h typeName default hmembers hdepth hblank rest
  have hresult : Tree.asRecord? slots default v = none := by
    cases v with
    | array items => exact absurd hleads hbracket
    | object members => exact absurd hleads hbrace
    | _ => rfl
  simp only [record, List.cons_append]
  rw [skipBlank_append_cons hblank hc]
  simp only [hbracket, hbrace, if_false, hresult]
  rfl

end

/-! ### Whole texts -/

/-- A whole text is read as what the reader reads before the blank space at its end. -/
theorem toOption_ofText_of_read {d : Decoder α} {text : String} {cs after : List Char}
    {result : Option α} (heq : text.toList = cs ++ after) (hafter : IsBlankText after)
    (hread : (d.read nestingLimit (cs ++ after)).toOption = result.map (·, after)) :
    (d.ofText text).toOption = result := by
  simp only [ofText, readAll, heq]
  rcases hfound : d.read nestingLimit (cs ++ after) with
    (⟨fault, unread⟩ | ⟨mismatch, left⟩) | ⟨a, left⟩ <;> rw [hfound] at hread
  · cases result <;> simp at hread ⊢
  · cases result <;> simp at hread ⊢
  · cases result with
    | none => simp at hread
    | some b =>
      obtain ⟨rfl, rfl⟩ : a = b ∧ left = after := by simpa using hread
      simp [skipBlank_of_isBlankText hafter]

/-- A whole text is read as the result of the value that it denotes. -/
theorem toOption_ofText {d : Decoder α} {sem : Tree → Option α} (h : d.Reads sem) {text : String}
    {v : Tree} (htext : TextDenotes text v) (hdepth : v.depth < nestingLimit) :
    (d.ofText text).toOption = sem v := by
  obtain ⟨before, cs, after, heq, hbefore, hafter, hcs⟩ := htext
  have hread := h cs v nestingLimit hcs hdepth before after hbefore
    (endsValue_of_isBlankText hafter)
  rw [← List.append_assoc] at heq hread
  exact toOption_ofText_of_read heq hafter hread

end Decoder

end SovdConfig.Json
