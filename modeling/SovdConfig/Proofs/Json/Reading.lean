import SovdConfig.Proofs.Json.Literal
import SovdConfig.Proofs.Json.Quoted

namespace SovdConfig.Json

/-!
# Reading containers and values

The text of a value is read as the value, and passed over where it is not wanted.  Main definitions:

* `ReadsAs`, `Skips` — what a reader does with a text that is followed by the end of a value;
* `ReadsBefore` — what the reader of the inside of a container does with a text before its bracket;
* `Tree.toJson?` — the value that is read from a tree, unless a number in it has no double.

Main statements:

* `toOption_inContainer` — a container is read as its inside if its bracket follows;
* `ItemsText.readItems_append`, `ItemsText.readMembers_append` — the items of a list and the members
  of an object;
* `readValue_append` — any value that is not nested too deep;
* `skipValue_append` — a value that is not wanted, however deep it is.
-/

variable {α β : Type}

/-! ### Blank space -/

/-- The characters of blank space are blank. -/
theorem isBlank_of_mem {blank : List Char} (h : IsBlankText blank) : ∀ c ∈ blank, isBlank c := by
  intro c hc
  rcases h c hc with rfl | rfl | rfl | rfl <;> rfl

/-- Blank space in front of a text is skipped. -/
theorem skipBlank_append {blank : List Char} (h : IsBlankText blank) (rest : List Char) :
    skipBlank (blank ++ rest) = skipBlank rest :=
  List.dropWhile_append_of_pos (isBlank_of_mem h)

/-- It is skipped up to the first character that is not blank. -/
theorem skipBlank_append_cons {blank : List Char} (h : IsBlankText blank) {c : Char}
    (hc : isBlank c = false) (rest : List Char) :
    skipBlank (blank ++ c :: rest) = c :: rest := by
  rw [skipBlank_append h]
  simp [skipBlank, hc]

/-- Nothing is left of blank space alone. -/
theorem skipBlank_of_isBlankText {blank : List Char} (h : IsBlankText blank) :
    skipBlank blank = [] := by
  have hskip := skipBlank_append h []
  rwa [List.append_nil] at hskip

/-- A value may end at blank space if it may end behind it. -/
theorem endsValue_append {blank rest : List Char} (h : IsBlankText blank) (hrest : EndsValue rest) :
    EndsValue (blank ++ rest) := by
  rcases blank with - | ⟨b, blank⟩
  · exact hrest
  · intro c hc
    obtain rfl : b = c := by simpa using hc
    rcases h b (by simp) with h | h | h | h <;> simp [h]

/-- A value may end at the end of the text, blank space apart. -/
theorem endsValue_of_isBlankText {blank : List Char} (h : IsBlankText blank) : EndsValue blank := by
  have hnil : EndsValue [] := by simp [EndsValue]
  simpa using endsValue_append h hnil

/-- The brackets that end containers. -/
def IsClosing (c : Char) : Prop := c = ']' ∨ c = '\x7d'

/-- A value may end at such a bracket. -/
theorem IsClosing.endsValue {c : Char} (h : IsClosing c) (rest : List Char) :
    EndsValue (c :: rest) := by
  rcases h with rfl | rfl <;> simp [EndsValue]

/-- What follows an item starts where a value may end. -/
theorem TailText.endsValue {item : List Char → α → Prop} {cs : List Char} {as : List α}
    (h : TailText item cs as) {bracket : Char} (hbracket : IsClosing bracket) (rest : List Char) :
    EndsValue (cs ++ bracket :: rest) := by
  cases h with
  | done hblank => exact endsValue_append hblank (hbracket.endsValue rest)
  | more hbefore _ _ _ =>
    rw [List.append_assoc]
    exact endsValue_append hbefore (by simp [EndsValue])

/-! ### What readers do with a text -/

/-- Whether a text starts with a character that is no blank and not the given bracket. -/
def StartsItem (bracket : Char) (cs : List Char) : Prop :=
  ∃ c tail, cs = c :: tail ∧ isBlank c = false ∧ c ≠ bracket

/-- Whether a text is read as the given result, or refused if there is none, wherever a value may
    end behind it. -/
def ReadsAs (read : Reader β) (cs : List Char) (result : Option β) : Prop :=
  ∀ blank rest, IsBlankText blank → EndsValue rest →
    (read (blank ++ (cs ++ rest))).toOption = result.map (·, rest)

/-- Whether a text is passed over wherever a value may end behind it. -/
def Skips (skip : List Char → Except Failure (List Char)) (cs : List Char) : Prop :=
  ∀ blank rest, IsBlankText blank → EndsValue rest → skip (blank ++ (cs ++ rest)) = .ok rest

/-- Whether the inside of a container is read as the given result up to blank space before its
    bracket, or refused if there is no result. -/
def ReadsBefore (bracket : Char) (body : Reader β) (cs : List Char) (result : Option β) : Prop :=
  ∀ rest, ∃ blank, IsBlankText blank ∧
    (body (cs ++ bracket :: rest)).toOption = result.map (·, blank ++ bracket :: rest)

/-- A text without blank space in front is read the same. -/
theorem ReadsAs.toOption {read : Reader β} {cs : List Char} {result : Option β}
    (h : ReadsAs read cs result) {rest : List Char} (hrest : EndsValue rest) :
    (read (cs ++ rest)).toOption = result.map (·, rest) :=
  h [] rest (by simp [IsBlankText]) hrest

/-- A digit starts no word, is no sign, no bracket and no blank. -/
theorem startsNumber_of_isDigit {c : Char} (h : c.isDigit) :
    c ≠ 'n' ∧ c ≠ 't' ∧ c ≠ 'f' ∧ c ≠ '-' ∧ c ≠ ']' ∧ isBlank c = false := by
  refine ⟨?_, ?_, ?_, ?_, ?_, ?_⟩
  iterate 5 rintro rfl; simp at h
  simp only [isBlank, Bool.or_eq_false_iff, decide_eq_false_iff_not]
  refine ⟨⟨⟨?_, ?_⟩, ?_⟩, ?_⟩ <;> rintro rfl <;> simp at h

/-- Whether the text of a value starts with a character. -/
def Tree.Leads : Tree → Char → Prop
  | .null, c => c = 'n'
  | .bool b, c => c = if b then 't' else 'f'
  | .number _, c => c = '-' ∨ c.isDigit
  | .string _, c => c = '"'
  | .array _, c => c = '['
  | .object _, c => c = '\x7b'

/-- The text of a value starts with a character of its kind, which is no blank. -/
theorem exists_cons_of_denotes {cs : List Char} {v : Tree} (h : Denotes cs v) :
    ∃ c tail, cs = c :: tail ∧ isBlank c = false ∧ v.Leads c := by
  cases h with
  | null | true | false | string _ | array _ | object _ => exact ⟨_, _, rfl, by decide, rfl⟩
  | number h =>
    obtain ⟨hwhole, -, -, -⟩ := h
    rename_i negative whole point fraction power exponent
    cases negative with
    | true => exact ⟨_, _, rfl, by decide, Or.inl rfl⟩
    | false =>
      obtain ⟨c, tail, rfl, hc, -⟩ := hwhole.exists_cons
      obtain ⟨-, -, -, -, -, hblank⟩ := startsNumber_of_isDigit hc
      exact ⟨c, _, rfl, hblank, Or.inr hc⟩

/-- No value starts like the end of a list. -/
theorem startsItem_of_denotes {cs : List Char} {v : Tree} (h : Denotes cs v) :
    StartsItem ']' cs := by
  obtain ⟨c, tail, rfl, hblank, hleads⟩ := exists_cons_of_denotes h
  refine ⟨c, tail, rfl, hblank, ?_⟩
  rintro rfl
  cases v with
  | bool b => cases b <;> simp [Tree.Leads] at hleads
  | _ => simp [Tree.Leads] at hleads

/-! ### Containers -/

/-- A container that is not nested too deep is read as its inside, if its bracket follows. -/
theorem toOption_inContainer {close : List Char → Except Failure (List Char)}
    {pass : List Char → List Char} {depth : Nat} (hdepth : 1 < depth) (body : Nat → Reader α)
    (bracket : Char) (cs : List Char) :
    (inContainer close pass depth body (bracket :: cs)).toOption =
      (body (depth - 1) cs).toOption.bind fun (a, rest) => (close rest).toOption.map (a, ·) := by
  have hnotDeep : ¬ depth ≤ 1 := Nat.not_le_of_lt hdepth
  simp only [inContainer, if_neg hnotDeep, List.tail_cons]
  rcases body (depth - 1) cs with (⟨fault, unread⟩ | ⟨mismatch, rest⟩) | ⟨a, rest⟩
  · rfl
  · rfl
  · exact toOption_map _ _

/-- The bracket of a list ends it. -/
theorem closeList_append {blank : List Char} (h : IsBlankText blank) (rest : List Char) :
    closeList (blank ++ ']' :: rest) = .ok rest := by
  simp [closeList, skipBlank_append_cons h (c := ']') rfl]

/-- The bracket of an object ends it. -/
theorem closeObject_append {blank : List Char} (h : IsBlankText blank) (rest : List Char) :
    closeObject (blank ++ '\x7d' :: rest) = .ok rest := by
  simp [closeObject, skipBlank_append_cons h (c := '\x7d') rfl]

/-- A list is read as what its inside is read as. -/
theorem toOption_inList {depth : Nat} (hdepth : 1 < depth) (body : Nat → Reader α)
    {cs : List Char} {result : Option α} (h : ReadsBefore ']' (body (depth - 1)) cs result)
    (rest : List Char) :
    (inList depth body ('[' :: (cs ++ ']' :: rest))).toOption = result.map (·, rest) := by
  obtain ⟨blank, hblank, hbody⟩ := h rest
  rw [inList, toOption_inContainer hdepth, hbody]
  cases result with
  | none => rfl
  | some a => simp [closeList_append hblank]

/-- An object is read as what its inside is read as. -/
theorem toOption_inObject {depth : Nat} (hdepth : 1 < depth) (body : Nat → Reader α)
    {cs : List Char} {result : Option α} (h : ReadsBefore '\x7d' (body (depth - 1)) cs result)
    (rest : List Char) :
    (inObject depth body ('\x7b' :: (cs ++ '\x7d' :: rest))).toOption = result.map (·, rest) := by
  obtain ⟨blank, hblank, hbody⟩ := h rest
  rw [inObject, toOption_inContainer hdepth, hbody]
  cases result with
  | none => rfl
  | some a => simp [closeObject_append hblank]

/-! ### Punctuation -/

/-- Before the bracket of a list there is no further item. -/
theorem nextItem_done (isFirst : Bool) {blank : List Char} (h : IsBlankText blank)
    (rest : List Char) : nextItem isFirst (blank ++ ']' :: rest) = .ok none := by
  simp [nextItem, skipBlank_append_cons h (c := ']') rfl]

/-- The first item of a list comes after blank space. -/
theorem nextItem_first {blank cs : List Char} (h : IsBlankText blank) (hcs : StartsItem ']' cs)
    (rest : List Char) : nextItem true (blank ++ (cs ++ rest)) = .ok (some (cs ++ rest)) := by
  obtain ⟨c, tail, rfl, hc, hbracket⟩ := hcs
  simp [nextItem, skipBlank_append_cons h hc, hbracket]

/-- Every other item comes after a comma. -/
theorem nextItem_more {before after cs : List Char} (hbefore : IsBlankText before)
    (hafter : IsBlankText after) (hcs : StartsItem ']' cs) (rest : List Char) :
    nextItem false (before ++ ',' :: (after ++ (cs ++ rest))) = .ok (some (cs ++ rest)) := by
  obtain ⟨c, tail, rfl, hc, hbracket⟩ := hcs
  simp [nextItem, skipBlank_append_cons hbefore (c := ',') rfl, skipBlank_append_cons hafter hc,
    hbracket]

/-- Before the bracket of an object there is no further name. -/
theorem nextName_done (isFirst : Bool) {blank : List Char} (h : IsBlankText blank)
    (rest : List Char) : nextName isFirst (blank ++ '\x7d' :: rest) = .ok none := by
  simp [nextName, skipBlank_append_cons h (c := '\x7d') rfl]

/-- The first name of an object comes after blank space. -/
theorem nextName_first {blank : List Char} (h : IsBlankText blank) (rest : List Char) :
    nextName true (blank ++ '"' :: rest) = .ok (some rest) := by
  simp [nextName, skipBlank_append_cons h (c := '"') rfl]

/-- Every other name comes after a comma. -/
theorem nextName_more {before after : List Char} (hbefore : IsBlankText before)
    (hafter : IsBlankText after) (rest : List Char) :
    nextName false (before ++ ',' :: (after ++ '"' :: rest)) = .ok (some rest) := by
  simp [nextName, skipBlank_append_cons hbefore (c := ',') rfl,
    skipBlank_append_cons hafter (c := '"') rfl]

/-- The colon comes after blank space. -/
theorem readColon_append {blank : List Char} (h : IsBlankText blank) (rest : List Char) :
    readColon (blank ++ ':' :: rest) = .ok rest := by
  simp [readColon, skipBlank_append_cons h (c := ':') rfl]

/-! ### Items of lists -/

section

variable {item : List Char → α → Prop} {read : Reader β} {sem : α → Option β} {cs : List Char}
  {as : List α}

/-- One more item is read in front of the others. -/
theorem toOption_readItems_succ {isFirst : Bool} {text cs rest : List Char} {result : Option β}
    (hnext : nextItem isFirst text = .ok (some (cs ++ rest))) (hread : ReadsAs read cs result)
    (hrest : EndsValue rest) (fuel : Nat) :
    (readItems read (fuel + 1) isFirst text).toOption =
      result.bind fun b =>
        (readItems read fuel false rest).toOption.map fun (bs, after) => (b :: bs, after) := by
  rw [readItems, hnext, ok_bind]
  simp only [toOption_bind, hread.toOption hrest]
  cases result with
  | none => rfl
  | some b =>
    simp only [Option.map_some, Option.bind_some]
    cases (readItems read fuel false rest).toOption <;> rfl

/-- Further items are read one by one. -/
theorem TailText.readItems_append (h : TailText item cs as)
    (hitem : ∀ a ∈ as, ∀ cs, item cs a → StartsItem ']' cs ∧ ReadsAs read cs (sem a))
    (fuel : Nat) (hfuel : cs.length < fuel) :
    ReadsBefore ']' (readItems read fuel false) cs (as.mapM sem) := by
  intro rest
  induction h generalizing fuel with
  | @done blank hblank =>
    obtain ⟨fuel, rfl⟩ := Nat.exists_eq_add_one_of_ne_zero (Nat.ne_zero_of_lt hfuel)
    exact ⟨blank, hblank, by simp [readItems, nextItem_done false hblank]; rfl⟩
  | @more before after cs tail a as hbefore hafter ha htail ih =>
    obtain ⟨fuel, rfl⟩ := Nat.exists_eq_add_one_of_ne_zero (Nat.ne_zero_of_lt hfuel)
    obtain ⟨hstart, hread⟩ := hitem a (by simp) cs ha
    obtain ⟨blank, hblank, hmore⟩ := ih (fun b hb => hitem b (by simp [hb])) fuel (by
      simp only [List.length_append, List.length_cons] at hfuel
      omega)
    refine ⟨blank, hblank, ?_⟩
    have htext : before ++ ',' :: (after ++ (cs ++ tail)) ++ ']' :: rest =
        before ++ ',' :: (after ++ (cs ++ (tail ++ ']' :: rest))) := by simp
    rw [htext, toOption_readItems_succ (nextItem_more hbefore hafter hstart _) hread
      (htail.endsValue (Or.inl rfl) rest), hmore, List.mapM_cons]
    cases sem a <;> cases as.mapM sem <;> rfl

/-- The items of a list are read one by one. -/
theorem ItemsText.readItems_append (h : ItemsText item cs as)
    (hitem : ∀ a ∈ as, ∀ cs, item cs a → StartsItem ']' cs ∧ ReadsAs read cs (sem a)) :
    ReadsBefore ']' (fun text => readItems read (text.length + 1) true text) cs (as.mapM sem) := by
  intro rest
  cases h with
  | none hblank => exact ⟨cs, hblank, by simp [readItems, nextItem_done true hblank]; rfl⟩
  | @some blank cs tail a as hblank ha htail =>
    obtain ⟨hstart, hread⟩ := hitem a (by simp) cs ha
    obtain ⟨after, hafter, hmore⟩ := htail.readItems_append
      (fun b hb => hitem b (by simp [hb])) (blank ++ (cs ++ tail) ++ ']' :: rest).length
      (by simp; omega) rest
    refine ⟨after, hafter, ?_⟩
    have htext : blank ++ (cs ++ tail) ++ ']' :: rest =
        blank ++ (cs ++ (tail ++ ']' :: rest)) := by simp
    simp only [htext] at hmore ⊢
    rw [toOption_readItems_succ (nextItem_first hblank hstart _) hread
      (htail.endsValue (Or.inl rfl) rest), hmore, List.mapM_cons]
    cases sem a <;> cases as.mapM sem <;> rfl

end

/-! ### Members of objects -/

section

variable {value : List Char → α → Prop} {read : Reader β} {sem : α → Option β} {cs : List Char}
  {members : List (String × α)}

/-- A member starts with the opening quote of its name. -/
theorem MemberText.exists_cons {m : String × α} (h : MemberText value cs m) :
    ∃ tail, cs = '"' :: tail := by
  cases h
  exact ⟨_, rfl⟩

/-- One more member is read in front of the others. -/
theorem toOption_readMembers_succ {isFirst : Bool} {text cs rest : List Char} {m : String × α}
    {result : Option β} (hnext : nextName isFirst text = .ok (some (cs ++ rest)))
    (hm : MemberText value ('"' :: cs) m)
    (hvalue : ∀ cs, value cs m.2 → ReadsAs read cs result) (hrest : EndsValue rest) (fuel : Nat) :
    (readMembers read (fuel + 1) isFirst text).toOption =
      result.bind fun b =>
        (readMembers read fuel false rest).toOption.map fun (members, after) =>
          ((m.1, b) :: members, after) := by
  obtain @⟨name, label, gap, gap', cs, a, hname, hgap, hgap', ha⟩ := hm
  have hread := hvalue cs ha gap' rest hgap' hrest
  rw [readMembers, hnext, ok_bind]
  simp only [List.append_assoc, List.cons_append, readString_append hname, readColon_append hgap,
    ok_bind, toOption_bind, hread]
  cases result with
  | none => rfl
  | some b =>
    simp only [Option.map_some, Option.bind_some]
    cases (readMembers read fuel false rest).toOption <;> rfl

/-- Further members are read one by one. -/
theorem TailText.readMembers_append (h : TailText (MemberText value) cs members)
    (hvalue : ∀ m ∈ members, ∀ cs, value cs m.2 → ReadsAs read cs (sem m.2))
    (fuel : Nat) (hfuel : cs.length < fuel) :
    ReadsBefore '\x7d' (readMembers read fuel false) cs
      (members.mapM fun m => (sem m.2).map (m.1, ·)) := by
  intro rest
  induction h generalizing fuel with
  | @done blank hblank =>
    obtain ⟨fuel, rfl⟩ := Nat.exists_eq_add_one_of_ne_zero (Nat.ne_zero_of_lt hfuel)
    exact ⟨blank, hblank, by simp [readMembers, nextName_done false hblank]; rfl⟩
  | @more before after member tail m members hbefore hafter hm htail ih =>
    obtain ⟨fuel, rfl⟩ := Nat.exists_eq_add_one_of_ne_zero (Nat.ne_zero_of_lt hfuel)
    obtain ⟨blank, hblank, hmore⟩ := ih (fun b hb => hvalue b (by simp [hb])) fuel (by
      simp only [List.length_append, List.length_cons] at hfuel
      omega)
    refine ⟨blank, hblank, ?_⟩
    obtain ⟨cs, rfl⟩ := hm.exists_cons
    have htext : before ++ ',' :: (after ++ ('"' :: cs ++ tail)) ++ '\x7d' :: rest =
        before ++ ',' :: (after ++ '"' :: (cs ++ (tail ++ '\x7d' :: rest))) := by simp
    rw [htext, toOption_readMembers_succ (nextName_more hbefore hafter _) hm
      (hvalue m (by simp)) (htail.endsValue (Or.inr rfl) rest), hmore, List.mapM_cons]
    cases sem m.2 <;> cases members.mapM fun m => (sem m.2).map (m.1, ·) <;> rfl

/-- The members of an object are read one by one. -/
theorem ItemsText.readMembers_append (h : ItemsText (MemberText value) cs members)
    (hvalue : ∀ m ∈ members, ∀ cs, value cs m.2 → ReadsAs read cs (sem m.2)) :
    ReadsBefore '\x7d' (fun text => readMembers read (text.length + 1) true text) cs
      (members.mapM fun m => (sem m.2).map (m.1, ·)) := by
  intro rest
  cases h with
  | none hblank => exact ⟨cs, hblank, by simp [readMembers, nextName_done true hblank]; rfl⟩
  | @some blank member tail m members hblank hm htail =>
    obtain ⟨after, hafter, hmore⟩ := htail.readMembers_append
      (fun b hb => hvalue b (by simp [hb])) (blank ++ (member ++ tail) ++ '\x7d' :: rest).length
      (by simp; omega) rest
    refine ⟨after, hafter, ?_⟩
    obtain ⟨cs, rfl⟩ := hm.exists_cons
    have htext : blank ++ ('"' :: cs ++ tail) ++ '\x7d' :: rest =
        blank ++ '"' :: (cs ++ (tail ++ '\x7d' :: rest)) := by simp
    simp only [htext] at hmore ⊢
    rw [toOption_readMembers_succ (nextName_first hblank _) hm
      (hvalue m (by simp)) (htail.endsValue (Or.inr rfl) rest), hmore, List.mapM_cons]
    cases sem m.2 <;> cases members.mapM fun m => (sem m.2).map (m.1, ·) <;> rfl

end

/-! ### Values -/

namespace Tree

mutual

/-- The value that is read from a tree; there is none if a number in it has no double. -/
def toJson? : Tree → Option Json
  | null => some .null
  | bool b => some (.bool b)
  | number l => l.number?.map .number
  | string s => some (.string s)
  | array items => (toJsonAll? items).map .array
  | object members => (toJsonMembers? members).map ofMembers

/-- The values that are read from the items of a list. -/
def toJsonAll? : List Tree → Option (List Json)
  | [] => some []
  | v :: rest => do
    let j ← v.toJson?
    let js ← toJsonAll? rest
    return j :: js

/-- The members that are read from the members of an object. -/
def toJsonMembers? : List (String × Tree) → Option (List (String × Json))
  | [] => some []
  | (name, v) :: rest => do
    let j ← v.toJson?
    let js ← toJsonMembers? rest
    return (name, j) :: js

end

/-- The items of a list are read one by one. -/
theorem toJsonAll?_eq (items : List Tree) : toJsonAll? items = items.mapM toJson? := by
  induction items with
  | nil => rfl
  | cons v rest ih => rw [toJsonAll?, List.mapM_cons, ih]

/-- The members of an object are read one by one. -/
theorem toJsonMembers?_eq (members : List (String × Tree)) :
    toJsonMembers? members = members.mapM fun m => m.2.toJson?.map (m.1, ·) := by
  induction members with
  | nil => rfl
  | cons m rest ih =>
    rw [toJsonMembers?, List.mapM_cons, ih]
    cases m.2.toJson? <;> rfl

end Tree

/-- The letters of a word are read after the first. -/
theorem readWord_append (word rest : List Char) : readWord word (word ++ rest) = .ok rest := by
  induction word with
  | nil => rfl
  | cons c word ih => simpa [readWord] using ih

/-- A number starts with its sign or with a digit, and either way it is read as the number that
    stands for it. -/
theorem NumberText.read_append {cs : List Char} {l : Literal} (h : NumberText cs l) :
    ∃ c tail, cs = c :: tail ∧
      ((c = '-' ∧ ∀ rest, EndsValue rest →
          (readNumber true (tail ++ rest)).toOption = l.number?.map (·, rest)) ∨
        (c.isDigit ∧ ∀ rest, EndsValue rest →
          (readNumber false (c :: (tail ++ rest))).toOption = l.number?.map (·, rest))) := by
  obtain @⟨negative, whole, point, fraction, power, exponent, hwhole, hzero, hpoint, hpower⟩ := h
  have hread := fun {rest} (hrest : EndsValue rest) =>
    readNumber_append hwhole hzero hpoint hpower hrest negative
  cases negative with
  | true => exact ⟨_, _, rfl, Or.inl ⟨rfl, fun rest hrest => by simpa using hread hrest⟩⟩
  | false =>
    obtain ⟨c, tail, rfl, hc, -⟩ := hwhole.exists_cons
    exact ⟨c, _, rfl, Or.inr ⟨hc, fun rest hrest => by simpa using hread hrest⟩⟩

/-- A number that has been read is a value. -/
theorem toOption_bind_number (r : Except Failure (JsonNumber × List Char)) :
    (r >>= fun (n, rest) => (return (Json.number n, rest) : Except _ _)).toOption =
      r.toOption.map fun (n, rest) => (Json.number n, rest) := by
  rcases r with _ | _ <;> rfl

/-- A number is a value as the number that stands for it, whatever is left of the nesting. -/
theorem readValue_number {cs : List Char} {l : Literal} (h : NumberText cs l) (depth : Nat) :
    ReadsAs (readValue (depth + 1)) cs (l.number?.map .number) := by
  intro blank rest hblank hrest
  obtain ⟨c, tail, rfl, ⟨rfl, hread⟩ | ⟨hc, hread⟩⟩ := h.read_append
  · simp only [List.cons_append]
    rw [readValue, skipBlank_append_cons hblank (by decide)]
    simp only [Char.reduceEq, if_false, if_true, toOption_bind_number, hread rest hrest]
    cases Literal.number? _ <;> rfl
  · obtain ⟨hn, ht, hf, hsign, -, hblankless⟩ := startsNumber_of_isDigit hc
    simp only [List.cons_append]
    rw [readValue, skipBlank_append_cons hblank hblankless]
    simp only [hn, ht, hf, hsign, hc, if_false, if_true, toOption_bind_number, hread rest hrest]
    cases Literal.number? _ <;> rfl

/-- A value that is not nested too deep is read from its text, unless a number in it has no
    double. -/
theorem readValue_append {cs : List Char} {v : Tree} (h : Denotes cs v) (depth : Nat)
    (hdepth : v.depth < depth) : ReadsAs (readValue depth) cs v.toJson? := by
  induction depth generalizing cs v with
  | zero => omega
  | succ depth ih =>
    intro blank rest hblank hrest
    cases h with
    | number h => exact readValue_number h depth blank rest hblank hrest
    | null =>
      have hword := readWord_append ['u', 'l', 'l'] rest
      simp only [List.cons_append, List.nil_append] at hword ⊢
      rw [readValue, skipBlank_append_cons hblank (by decide)]
      simp [hword, Tree.toJson?]
    | true =>
      have hword := readWord_append ['r', 'u', 'e'] rest
      simp only [List.cons_append, List.nil_append] at hword ⊢
      rw [readValue, skipBlank_append_cons hblank (by decide)]
      simp [hword, Tree.toJson?]
    | false =>
      have hword := readWord_append ['a', 'l', 's', 'e'] rest
      simp only [List.cons_append, List.nil_append] at hword ⊢
      rw [readValue, skipBlank_append_cons hblank (by decide)]
      simp [hword, Tree.toJson?]
    | string h =>
      have hread := readString_append h rest
      simp only [List.cons_append, List.append_assoc, List.nil_append]
      rw [readValue, skipBlank_append_cons hblank (by decide)]
      simp [hread, Tree.toJson?]
    | @array cs items h =>
      rw [Tree.depth] at hdepth
      -- what is inside is less deep, so that the induction covers it
      have hitem : ∀ a ∈ items, ∀ cs, Denotes cs a →
          StartsItem ']' cs ∧ ReadsAs (readValue depth) cs a.toJson? := fun a ha cs hcs =>
        ⟨startsItem_of_denotes hcs, ih hcs (by have := Tree.depth_le_depthAll ha; omega)⟩
      have hinside := toOption_inList (show 1 < depth + 1 by omega)
        (fun _ cs => readItems (readValue depth) (cs.length + 1) true cs)
        (h.readItems_append hitem) rest
      simp only [List.cons_append, List.append_assoc, List.nil_append]
      rw [readValue, skipBlank_append_cons hblank (by decide)]
      simp only [Char.reduceEq, Char.reduceIsDigit, Bool.false_eq_true, if_false, if_true,
        toOption_bind, hinside, Tree.toJson?, Tree.toJsonAll?_eq]
      cases items.mapM Tree.toJson? <;> rfl
    | @object cs members h =>
      rw [Tree.depth] at hdepth
      have hmember : ∀ m ∈ members, ∀ cs, Denotes cs m.2 →
          ReadsAs (readValue depth) cs m.2.toJson? := fun m hm cs hcs =>
        ih hcs (by have := Tree.depth_le_depthMembers hm; omega)
      have hinside := toOption_inObject (show 1 < depth + 1 by omega)
        (fun _ cs => readMembers (readValue depth) (cs.length + 1) true cs)
        (h.readMembers_append hmember) rest
      simp only [List.cons_append, List.append_assoc, List.nil_append]
      rw [readValue, skipBlank_append_cons hblank (by decide)]
      simp only [Char.reduceEq, Char.reduceIsDigit, Bool.false_eq_true, if_false, if_true,
        toOption_bind, hinside, Tree.toJson?, Tree.toJsonMembers?_eq]
      cases members.mapM fun m => m.2.toJson?.map (m.1, ·) <;> rfl

/-! ### Values that are not wanted -/

section

variable {item value : List Char → α → Prop} {skip : List Char → Except Failure (List Char)}
  {cs : List Char} {as : List α} {n : Nat}

/-- Further items that are not wanted are passed over. -/
theorem TailText.skipItems_append (h : TailText item cs as)
    (hitem : ∀ cs a, item cs a → cs.length < n → Skips skip cs) (hn : cs.length < n)
    (fuel : Nat) (hfuel : cs.length < fuel) (rest : List Char) :
    skipItems skip fuel false (cs ++ ']' :: rest) = .ok rest := by
  induction h generalizing fuel with
  | @done blank hblank =>
    obtain ⟨fuel, rfl⟩ := Nat.exists_eq_add_one_of_ne_zero (Nat.ne_zero_of_lt hfuel)
    simp [skipItems, skipBlank_append_cons hblank (c := ']') rfl]
  | @more before after cs tail a as hbefore hafter ha htail ih =>
    obtain ⟨fuel, rfl⟩ := Nat.exists_eq_add_one_of_ne_zero (Nat.ne_zero_of_lt hfuel)
    simp only [List.length_append, List.length_cons] at hfuel hn
    have hskip := hitem cs a ha (by omega) after (tail ++ ']' :: rest) hafter
      (htail.endsValue (Or.inl rfl) rest)
    have hmore := ih (by omega) fuel (by omega)
    simp only [List.append_assoc, List.cons_append]
    rw [skipItems, skipBlank_append_cons hbefore (by decide)]
    simp only [Char.reduceEq, Bool.false_eq_true, if_false, if_true, hskip, ok_bind, hmore]

/-- The items of a list that is not wanted are passed over with its bracket. -/
theorem ItemsText.skipItems_append (h : ItemsText item cs as)
    (hitem : ∀ cs a, item cs a → cs.length < n → StartsItem ']' cs ∧ Skips skip cs)
    (hn : cs.length < n) (fuel : Nat) (hfuel : cs.length < fuel) (rest : List Char) :
    skipItems skip (fuel + 1) true (cs ++ ']' :: rest) = .ok rest := by
  cases h with
  | none hblank => simp [skipItems, skipBlank_append_cons hblank (c := ']') rfl]
  | @some blank cs tail a as hblank ha htail =>
    simp only [List.length_append] at hfuel hn
    obtain ⟨⟨c, cs, rfl, hc, hbracket⟩, hskip⟩ := hitem cs a ha (by omega)
    have hskip := hskip [] (tail ++ ']' :: rest) (by simp [IsBlankText])
      (htail.endsValue (Or.inl rfl) rest)
    have hmore := htail.skipItems_append (fun cs a ha hlength => (hitem cs a ha hlength).2)
      (by omega) fuel (by omega) rest
    simp only [List.append_assoc, List.cons_append, List.nil_append] at hskip ⊢
    rw [skipItems, skipBlank_append_cons hblank hc]
    simp only [hbracket, if_false, if_true, hskip, ok_bind, hmore]

/-- A member that is not wanted is passed over. -/
theorem MemberText.skipMember_append {m : String × α} (h : MemberText value cs m)
    (hvalue : ∀ cs a, value cs a → cs.length < n → Skips skip cs) (hn : cs.length < n) :
    Skips (skipMember skip) cs := by
  intro blank rest hblank hrest
  obtain @⟨name, label, gap, gap', cs, a, hname, hgap, hgap', ha⟩ := h
  simp only [List.length_append, List.length_cons] at hn
  have hskip := hvalue cs a ha (by omega) gap' rest hgap' hrest
  simp only [List.append_assoc, List.cons_append]
  rw [skipMember, skipBlank_append_cons hblank (by decide)]
  simp only [if_true, skipString_append hname, readColon_append hgap, ok_bind, hskip]

/-- Further members that are not wanted are passed over. -/
theorem TailText.skipMembers_append (h : TailText item cs as)
    (hitem : ∀ cs a, item cs a → cs.length < n → Skips (skipMember skip) cs) (hn : cs.length < n)
    (fuel : Nat) (hfuel : cs.length < fuel) (rest : List Char) :
    skipMembers skip fuel false (cs ++ '\x7d' :: rest) = .ok rest := by
  induction h generalizing fuel with
  | @done blank hblank =>
    obtain ⟨fuel, rfl⟩ := Nat.exists_eq_add_one_of_ne_zero (Nat.ne_zero_of_lt hfuel)
    simp [skipMembers, skipBlank_append_cons hblank (c := '\x7d') rfl]
  | @more before after cs tail a as hbefore hafter ha htail ih =>
    obtain ⟨fuel, rfl⟩ := Nat.exists_eq_add_one_of_ne_zero (Nat.ne_zero_of_lt hfuel)
    simp only [List.length_append, List.length_cons] at hfuel hn
    have hskip := hitem cs a ha (by omega) after (tail ++ '\x7d' :: rest) hafter
      (htail.endsValue (Or.inr rfl) rest)
    have hmore := ih (by omega) fuel (by omega)
    simp only [List.append_assoc, List.cons_append]
    rw [skipMembers, skipBlank_append_cons hbefore (by decide)]
    simp only [Char.reduceEq, Bool.false_eq_true, if_false, if_true, hskip, ok_bind, hmore]

/-- The members of an object that is not wanted are passed over with its bracket. -/
theorem ItemsText.skipMembers_append {members : List (String × α)}
    (h : ItemsText (MemberText value) cs members)
    (hvalue : ∀ cs a, value cs a → cs.length < n → Skips skip cs) (hn : cs.length < n)
    (fuel : Nat) (hfuel : cs.length < fuel) (rest : List Char) :
    skipMembers skip (fuel + 1) true (cs ++ '\x7d' :: rest) = .ok rest := by
  have hitem : ∀ cs m, MemberText value cs m → cs.length < n → Skips (skipMember skip) cs :=
    fun cs m hm hlength => hm.skipMember_append hvalue hlength
  cases h with
  | none hblank => simp [skipMembers, skipBlank_append_cons hblank (c := '\x7d') rfl]
  | @some blank member tail m members hblank hm htail =>
    simp only [List.length_append] at hfuel hn
    have hskip := hitem member m hm (by omega) [] (tail ++ '\x7d' :: rest) (by simp [IsBlankText])
      (htail.endsValue (Or.inr rfl) rest)
    have hmore := htail.skipMembers_append hitem (by omega) fuel (by omega) rest
    obtain ⟨cs, rfl⟩ := hm.exists_cons
    simp only [List.append_assoc, List.cons_append, List.nil_append] at hskip ⊢
    rw [skipMembers, skipBlank_append_cons hblank (by decide)]
    simp only [Char.reduceEq, if_false, if_true, hskip, ok_bind, hmore]

end

/-- A value that is not wanted is passed over in steps that its length bounds. -/
theorem skipNested_append {cs : List Char} {v : Tree} (h : Denotes cs v) (fuel : Nat)
    (hfuel : cs.length < fuel) : Skips (skipNested fuel) cs := by
  induction fuel generalizing cs v with
  | zero => omega
  | succ fuel ih =>
    intro blank rest hblank hrest
    cases h with
    | null | true | false =>
      simp only [List.cons_append, List.nil_append]
      rw [skipNested, skipBlank_append_cons hblank (by decide)]
      simp [readWord]
    | number h =>
      obtain @⟨negative, whole, point, fraction, power, exponent, hwhole, hzero, hpoint, hpower⟩ :=
        h
      have hskip := skipNumber_append hwhole hzero hpoint hpower hrest
      cases negative with
      | true =>
        simp only [if_true, List.cons_append, List.nil_append, List.append_assoc]
        rw [skipNested, skipBlank_append_cons hblank (by decide)]
        simpa using hskip
      | false =>
        obtain ⟨c, tail, rfl, hc, -⟩ := hwhole.exists_cons
        obtain ⟨hn, ht, hf, hsign, -, hblankless⟩ := startsNumber_of_isDigit hc
        simp only [Bool.false_eq_true, if_false, List.cons_append, List.nil_append,
          List.append_assoc] at hskip ⊢
        rw [skipNested, skipBlank_append_cons hblank hblankless]
        simpa [hn, ht, hf, hsign, hc] using hskip
    | string h =>
      simp only [List.cons_append, List.append_assoc, List.nil_append]
      rw [skipNested, skipBlank_append_cons hblank (by decide)]
      simpa using skipString_append h rest
    | @array cs items h =>
      simp only [List.length_cons, List.length_append, List.length_nil] at hfuel
      -- the two brackets leave fuel for what is inside
      obtain ⟨fuel, rfl⟩ : ∃ m, fuel = m + 1 := ⟨fuel - 1, by omega⟩
      have hitem : ∀ cs v, Denotes cs v → cs.length < fuel + 1 →
          StartsItem ']' cs ∧ Skips (skipNested (fuel + 1)) cs :=
        fun cs v hv hlength => ⟨startsItem_of_denotes hv, ih hv hlength⟩
      have hskip := h.skipItems_append hitem (by omega) fuel (by omega) rest
      simp only [List.cons_append, List.append_assoc, List.nil_append]
      rw [skipNested, skipBlank_append_cons hblank (by decide)]
      simpa using hskip
    | @object cs members h =>
      simp only [List.length_cons, List.length_append, List.length_nil] at hfuel
      obtain ⟨fuel, rfl⟩ : ∃ m, fuel = m + 1 := ⟨fuel - 1, by omega⟩
      have hvalue : ∀ cs v, Denotes cs v → cs.length < fuel + 1 →
          Skips (skipNested (fuel + 1)) cs := fun cs v hv hlength => ih hv hlength
      have hskip := h.skipMembers_append hvalue (by omega) fuel (by omega) rest
      simp only [List.cons_append, List.append_assoc, List.nil_append]
      rw [skipNested, skipBlank_append_cons hblank (by decide)]
      simpa using hskip

/-- A value that is not wanted is passed over, however deep it is. -/
theorem skipValue_append {cs : List Char} {v : Tree} (h : Denotes cs v) : Skips skipValue cs := by
  intro blank rest hblank hrest
  exact skipNested_append h _ (by simp; omega) blank rest hblank hrest

end SovdConfig.Json
