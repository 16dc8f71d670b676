import SovdConfig.Proofs.Toml.Integer

namespace SovdConfig.Toml

/-!
# Reading plain TOML documents

The reader understands plain documents as the grammar means them.  Main statements:

* `value?_of_plainValue`, `key?_of_bareKeys` — values and keys at the start of a text;
* `linesFrom_cons` — a line does to the tables what it says;
* `read?_plainDocument` — a document is read as its statements, applied one after the other.
-/

/-! ### Values -/

/-- A string without escapes is read up to its closing quote. -/
theorem basicFrom_of_unescaped {cs : List Char} (rest : List Char) (fuel : Nat)
    (h : ∀ c ∈ cs, IsUnescaped c) (hfuel : cs.length < fuel) :
    basicFrom fuel (cs ++ '"' :: rest) = some (cs, rest) := by
  induction cs generalizing fuel with
  | nil =>
    obtain ⟨fuel, rfl⟩ := Nat.exists_eq_succ_of_ne_zero (Nat.ne_zero_of_lt hfuel)
    simp [basicFrom]
  | cons c cs ih =>
    obtain ⟨fuel, rfl⟩ := Nat.exists_eq_succ_of_ne_zero (Nat.ne_zero_of_lt hfuel)
    obtain ⟨hplain, hquote, hescape⟩ := h c (by simp)
    have ih := ih fuel (fun c hc => h c (by simp [hc])) (by simpa using hfuel)
    simp [basicFrom, hplain, hquote, hescape, ih]

/-- A string without escapes is read as it stands, if no quote follows it. -/
theorem string?_of_unescaped {cs : List Char} (h : ∀ c ∈ cs, IsUnescaped c) {rest : List Char}
    (hrest : rest.head? ≠ some '"') :
    string? ('"' :: (cs ++ '"' :: rest)) = some (cs, rest) := by
  have hread : basicString? (cs ++ '"' :: rest) = some (cs, rest) :=
    basicFrom_of_unescaped rest _ h (by simp)
  unfold string?
  split
  · next tail heq =>
    -- three quotes in a row: the second closes an empty string, and the third is ruled out
    rcases cs with - | ⟨c, cs⟩
    · rcases rest with - | ⟨d, rest⟩
      · simp at heq
      · simp_all
    · obtain ⟨rfl, -⟩ : c = '"' ∧ cs ++ '"' :: rest = '"' :: tail := by simpa using heq
      exact absurd rfl (h '"' (by simp)).2.1
  · next tail hne heq =>
    obtain rfl : cs ++ '"' :: rest = tail := by simpa using heq
    exact hread
  · next heq => simp at heq
  · next heq => simp at heq
  · next hother _ _ => exact absurd rfl (hother _)

/-- What ends a word of a line: its line break. -/
theorem word?_of_integerLiteral {cs : List Char} {n : Int} (h : IntegerLiteral cs n)
    (hn : fitsSigned 64 n) (rest : List Char) :
    word? (cs ++ '\n' :: rest) = some (.integer n, '\n' :: rest) := by
  have hword : ∀ c ∈ cs, isWordChar c := fun c hc => (h.chars.1 c hc).1
  have hend : isWordChar '\n' = false := by decide
  have htake : (cs ++ '\n' :: rest).takeWhile isWordChar = cs := by
    simp [List.takeWhile_append_of_pos hword, hend]
  have hdrop : (cs ++ '\n' :: rest).dropWhile isWordChar = '\n' :: rest := by
    simp [List.dropWhile_append_of_pos hword, hend]
  simp [word?, htake, hdrop, scalar?_of_integerLiteral h hn]

/-- A value of a plain line is read as what it denotes. -/
theorem value?_of_plainValue {cs : List Char} {v : Toml} (h : PlainValue cs v) (rest : List Char) :
    value? (cs ++ '\n' :: rest) = some (v, '\n' :: rest) := by
  cases h with
  | string hcs =>
    have hread : string? ('"' :: (_ ++ '"' :: '\n' :: rest)) = some (_, '\n' :: rest) :=
      string?_of_unescaped hcs (by simp)
    simp [value?, valueFrom.eq_def, hread]
  | integer h hn =>
    obtain ⟨c, tail, rfl⟩ := List.exists_cons_of_ne_nil h.ne_nil
    have hc := (h.chars.1 c (by simp)).1
    -- the other kinds of values start with marks that stand in no word
    have hquote : c ≠ '"' ∧ c ≠ '\'' ∧ c ≠ '[' ∧ c ≠ '\x7b' := by
      refine ⟨?_, ?_, ?_, ?_⟩ <;> rintro rfl <;> simp [isWordChar] at hc
    have hread := word?_of_integerLiteral h hn rest
    rw [List.cons_append] at hread ⊢
    simp [value?, valueFrom.eq_def, hquote, hread]

/-! ### Keys -/

/-- No blanks are skipped before a character that is none. -/
theorem skipBlanks_cons {c : Char} (h : isBlank c = false) (cs : List Char) :
    skipBlanks (c :: cs) = c :: cs := by
  simp [skipBlanks, h]

/-- Whether a character, at the start of a line, starts a bare key and nothing else. -/
structure StartsKey (c : Char) : Prop where
  notString : c ≠ '"' ∧ c ≠ '\''
  notHeader : c ≠ '['
  notComment : c ≠ '#'
  notBreak : c ≠ '\n' ∧ c ≠ '\r'
  notBlank : isBlank c = false

/-- The characters of bare keys do so. -/
theorem startsKey_of_isBareKeyChar {c : Char} (hc : isBareKeyChar c) : StartsKey c where
  notString := by constructor <;> rintro rfl <;> simp [isBareKeyChar] at hc
  notHeader := by rintro rfl; simp [isBareKeyChar] at hc
  notComment := by rintro rfl; simp [isBareKeyChar] at hc
  notBreak := by constructor <;> rintro rfl <;> simp [isBareKeyChar] at hc
  notBlank := by
    simp only [isBlank, Bool.or_eq_false_iff, decide_eq_false_iff_not]
    constructor <;> rintro rfl <;> simp [isBareKeyChar] at hc

/-- A bare key starts with such a character. -/
theorem IsBareKey.exists_cons {key : String} (h : IsBareKey key) :
    ∃ c cs, key.toList = c :: cs ∧ StartsKey c := by
  obtain ⟨c, cs, hkey⟩ := List.exists_cons_of_ne_nil (by simpa using h.1 : key.toList ≠ [])
  exact ⟨c, cs, hkey, startsKey_of_isBareKeyChar (h.2 c (by simp [hkey]))⟩

/-- So do bare keys with dots between them. -/
theorem exists_cons_of_bareKeys {keys : List String} (hne : keys ≠ [])
    (h : ∀ key ∈ keys, IsBareKey key) :
    ∃ c cs, (".".intercalate keys).toList = c :: cs ∧ StartsKey c := by
  obtain ⟨key, keys, rfl⟩ := List.exists_cons_of_ne_nil hne
  obtain ⟨c, cs, hkey, hc⟩ := (h key (by simp)).exists_cons
  rcases keys with - | ⟨next, keys⟩
  · exact ⟨c, cs, by simpa using hkey, hc⟩
  · exact ⟨c, cs ++ '.' :: (".".intercalate (next :: keys)).toList, by simp [hkey], hc⟩

/-- A bare key is read up to a character that cannot stand in it. -/
theorem keyPart?_of_bareKey {key : String} {c : Char} {rest : List Char} (h : IsBareKey key)
    (hc : isBareKeyChar c = false) :
    keyPart? (key.toList ++ c :: rest) = some (key, c :: rest) := by
  -- the key is the longest run of characters that bare keys may have
  have htake : (key.toList ++ c :: rest).takeWhile isBareKeyChar = key.toList := by
    simp [List.takeWhile_append_of_pos h.2, hc]
  have hdrop : (key.toList ++ c :: rest).dropWhile isBareKeyChar = c :: rest := by
    simp [List.dropWhile_append_of_pos h.2, hc]
  obtain ⟨a, cs, hkey, ha⟩ := h.exists_cons
  unfold keyPart?
  split
  · next heq => simp [hkey, ha.notString] at heq
  · next heq => simp [hkey, ha.notString] at heq
  · simp [htake, hdrop, h.1]

/-- Bare keys with dots between them are read up to a character that cannot go on with them. -/
theorem keyFrom_of_bareKeys {keys : List String} {c : Char} {rest : List Char} (fuel : Nat)
    (hne : keys ≠ []) (h : ∀ key ∈ keys, IsBareKey key) (hfuel : keys.length ≤ fuel)
    (hc : isBareKeyChar c = false) (hdot : (skipBlanks (c :: rest)).head? ≠ some '.') :
    keyFrom fuel ((".".intercalate keys).toList ++ c :: rest) =
      some (keys, skipBlanks (c :: rest)) := by
  induction keys generalizing fuel with
  | nil => exact absurd rfl hne
  | cons key keys ih =>
    obtain ⟨fuel, rfl⟩ := Nat.exists_eq_add_one_of_ne_zero
      (Nat.ne_zero_of_lt (Nat.lt_of_lt_of_le (Nat.zero_lt_succ _) hfuel))
    have hkey := h key (by simp)
    rcases keys with - | ⟨next, keys⟩
    · rw [String.intercalate_singleton, keyFrom, keyPart?_of_bareKey hkey hc]
      simp only [Option.bind_eq_bind, Option.bind_some]
      split
      · next heq => exact absurd (by simp [heq]) hdot
      · rfl
    · have ih := ih fuel (by simp) (fun k hk => h k (by simp [hk])) (by simpa using hfuel)
      obtain ⟨a, cs, hnext, ha⟩ := exists_cons_of_bareKeys (by simp : next :: keys ≠ [])
        fun k hk => h k (by simp [hk])
      rw [hnext, List.cons_append] at ih
      -- behind the dot the next key starts with no blank, so none is skipped there
      have htext : (".".intercalate (key :: next :: keys)).toList ++ c :: rest =
          key.toList ++ '.' :: a :: (cs ++ c :: rest) := by
        simp [hnext]
      rw [htext, keyFrom, keyPart?_of_bareKey hkey (by decide)]
      simp only [Option.bind_eq_bind, Option.bind_some,
        skipBlanks_cons (by decide : isBlank '.' = false), skipBlanks_cons ha.notBlank, ih]
      rfl

/-- There are at least as many characters as bare keys. -/
theorem length_le_of_bareKeys {keys : List String} (h : ∀ key ∈ keys, IsBareKey key) :
    keys.length ≤ (".".intercalate keys).toList.length := by
  induction keys with
  | nil => simp
  | cons key keys ih =>
    obtain ⟨c, cs, hkey, -⟩ := (h key (by simp)).exists_cons
    have ih := ih fun k hk => h k (by simp [hk])
    rcases keys with - | ⟨next, keys⟩
    · simp [hkey]
    · simp only [String.intercalate_cons_cons, String.toList_append, List.length_append,
        List.length_cons, hkey] at ih ⊢
      omega

/-- Bare keys with dots between them are read up to a character that cannot go on with them. -/
theorem key?_of_bareKeys {keys : List String} (c : Char) (rest : List Char) (hne : keys ≠ [])
    (h : ∀ key ∈ keys, IsBareKey key) (hc : isBareKeyChar c = false)
    (hdot : (skipBlanks (c :: rest)).head? ≠ some '.') :
    key? ((".".intercalate keys).toList ++ c :: rest) = some (keys, skipBlanks (c :: rest)) := by
  have hfuel := length_le_of_bareKeys h
  refine keyFrom_of_bareKeys _ hne h ?_ hc hdot
  rw [List.length_append]
  omega

/-! ### Lines -/

/-- A value of a plain line starts with a character that is no blank. -/
theorem PlainValue.exists_cons {cs : List Char} {v : Toml} (h : PlainValue cs v) :
    ∃ c tail, cs = c :: tail ∧ isBlank c = false := by
  cases h with
  | string h => exact ⟨_, _, rfl, by decide⟩
  | integer h _ =>
    obtain ⟨c, tail, rfl⟩ := List.exists_cons_of_ne_nil h.ne_nil
    have hc := (h.chars.1 c (by simp)).1
    refine ⟨c, tail, rfl, ?_⟩
    simp only [isBlank, Bool.or_eq_false_iff, decide_eq_false_iff_not]
    constructor <;> rintro rfl <;> simp [isWordChar] at hc

/-- The line of a header is read as that header. -/
theorem statement?_of_header {keys : List String} (hne : keys ≠ [])
    (h : ∀ key ∈ keys, IsBareKey key) (rest : List Char) :
    statement? ('[' :: ((".".intercalate keys).toList ++ ']' :: '\n' :: rest)) =
      some (.header false keys, '\n' :: rest) := by
  obtain ⟨c, cs, hkeys, hc⟩ := exists_cons_of_bareKeys hne h
  have hskip : skipBlanks (']' :: '\n' :: rest) = ']' :: '\n' :: rest :=
    skipBlanks_cons (by decide) _
  have hread := key?_of_bareKeys ']' ('\n' :: rest) hne h (by decide)
    (by simp [hskip])
  rw [hskip] at hread
  rw [hkeys, List.cons_append] at hread ⊢
  simp [statement?, hc.notHeader, header?, skipBlanks_cons hc.notBlank, hread]

/-- The line of a key and its value is read as that assignment. -/
theorem statement?_of_assign {key : String} {cs : List Char} {v : Toml} (hkey : IsBareKey key)
    (hv : PlainValue cs v) (rest : List Char) :
    statement? (key.toList ++ ' ' :: '=' :: ' ' :: (cs ++ '\n' :: rest)) =
      some (.assign [key] v, '\n' :: rest) := by
  obtain ⟨c, tail, hkeys, hc⟩ := hkey.exists_cons
  obtain ⟨b, value, rfl, hb⟩ := hv.exists_cons
  have hblank : ∀ text, skipBlanks (' ' :: text) = skipBlanks text := fun text => by
    simp [skipBlanks, isBlank]
  have hequals : ∀ text, skipBlanks (' ' :: '=' :: text) = '=' :: text := fun text => by
    rw [hblank, skipBlanks_cons (by decide)]
  have hkeys' : ∀ k ∈ [key], IsBareKey k := by simpa using hkey
  have hread := key?_of_bareKeys ' ' ('=' :: ' ' :: (b :: value ++ '\n' :: rest)) (by simp) hkeys'
    (by decide) (by simp [hequals])
  rw [String.intercalate_singleton, hequals] at hread
  have hvalue := value?_of_plainValue hv rest
  rw [List.cons_append] at hread hvalue ⊢
  -- blanks are skipped around the equals sign only: a key ends at one, and values start with none
  have hassign : assignment? value?
      (key.toList ++ ' ' :: '=' :: ' ' :: b :: (value ++ '\n' :: rest)) =
        some (([key], v), '\n' :: rest) := by
    simp [assignment?, hread, hblank, skipBlanks_cons hb, hvalue]
  rw [hkeys, List.cons_append] at hassign ⊢
  -- a line that starts with a key starts with no bracket
  unfold statement?
  split
  · next heq => exact absurd (List.cons.inj heq).1 hc.notHeader
  · next heq => exact absurd (List.cons.inj heq).1 hc.notHeader
  · simp [hassign]

/-- What a line does to the tables read so far. -/
def Draft.after? (draft : Draft) : Option Statement → Option Draft
  | none => some draft
  | some statement => statement.extend? draft

/-- A line that is read up to its comment or its end is followed by the other lines. -/
theorem linesFrom_of_line? {fuel : Nat} {draft after : Draft} {cs rest : List Char}
    (tail : List Char)
    (hline : line? draft (skipBlanks cs) = some (after, tail))
    (hrest : skipComment (skipBlanks tail) = '\n' :: rest) :
    linesFrom (fuel + 1) draft cs = linesFrom fuel after rest := by
  simp [linesFrom, hline, hrest, lineBreak?]

/-- A line that starts neither with a comment nor with a line break holds a statement. -/
theorem line?_of_statement? (draft : Draft) {statement : Statement} {c : Char}
    {cs rest : List Char} (hcomment : c ≠ '#') (hbreak : c ≠ '\n' ∧ c ≠ '\r')
    (h : statement? (c :: cs) = some (statement, rest)) :
    line? draft (c :: cs) = (statement.extend? draft).map fun draft => (draft, rest) := by
  have hnone : lineBreak? (c :: cs) = none := by
    unfold lineBreak?
    split
    · next heq => exact absurd (List.cons.inj heq).1 hbreak.1
    · next heq => exact absurd (List.cons.inj heq).1 hbreak.2
    · rfl
  simp only [line?, hcomment, hnone, h, Option.isSome_none, Bool.false_eq_true, or_self,
    if_false, Option.bind_eq_bind, Option.bind_some]
  cases statement.extend? draft <;> rfl

/-- A line that holds a statement does to the tables what the statement does. -/
theorem linesFrom_of_statement? {fuel : Nat} {draft : Draft} {statement : Statement} {c : Char}
    {cs rest : List Char} (hcomment : c ≠ '#') (hbreak : c ≠ '\n' ∧ c ≠ '\r')
    (hblank : isBlank c = false) (h : statement? (c :: cs) = some (statement, '\n' :: rest)) :
    linesFrom (fuel + 1) draft (c :: cs) =
      (statement.extend? draft).bind fun draft => linesFrom fuel draft rest := by
  have hline := line?_of_statement? draft hcomment hbreak h
  rw [← skipBlanks_cons hblank cs] at hline
  rcases hafter : statement.extend? draft with - | after
  · rw [hafter] at hline
    simp [linesFrom, hline]
  · rw [hafter] at hline
    exact linesFrom_of_line? _ hline (by rw [skipBlanks_cons (by decide)]; rfl)

/-- A line does to the tables what it says. -/
theorem linesFrom_cons {line : List Char} {said : Option Statement} (h : PlainLine line said)
    (fuel : Nat) (draft : Draft) (rest : List Char) :
    linesFrom (fuel + 1) draft (line ++ '\n' :: rest) =
      (draft.after? said).bind fun draft => linesFrom fuel draft rest := by
  cases h with
  | blank =>
    have hskip : skipBlanks ('\n' :: rest) = '\n' :: rest := skipBlanks_cons (by decide) _
    refine linesFrom_of_line? ('\n' :: rest) ?_ ?_
    · rw [List.nil_append, hskip]; rfl
    · rw [hskip]; rfl
  | @comment cs hcs =>
    have hskip : skipBlanks ('#' :: (cs ++ '\n' :: rest)) = '#' :: (cs ++ '\n' :: rest) :=
      skipBlanks_cons (by decide) _
    refine linesFrom_of_line? ('#' :: (cs ++ '\n' :: rest)) ?_ ?_
    · rw [List.cons_append, hskip]; rfl
    · rw [hskip, skipComment, List.dropWhile_append_of_pos hcs]
      rfl
  | header hne hkeys =>
    have hread := statement?_of_header hne hkeys rest
    simp only [List.cons_append, List.append_assoc, List.nil_append]
    exact linesFrom_of_statement? (by decide) (by decide) (by decide) hread
  | @assign key cs v hkey hv =>
    have hread := statement?_of_assign hkey hv rest
    obtain ⟨c, tail, hkeys, hc⟩ := hkey.exists_cons
    simp only [List.cons_append, List.append_assoc]
    rw [hkeys, List.cons_append] at hread ⊢
    exact linesFrom_of_statement? hc.notComment hc.notBreak hc.notBlank hread

/-! ### Documents -/

/-- The lines of a document are read as their statements, applied one after the other. -/
theorem linesFrom_plainLines {lines : List (List Char)} {said : List (Option Statement)}
    (h : PlainLines lines said) (fuel : Nat) (hfuel : lines.length < fuel) (draft : Draft) :
    linesFrom fuel draft (lines.flatMap (· ++ ['\n'])) =
      said.reduceOption.foldlM Statement.extend? draft := by
  induction h generalizing fuel draft with
  | nil =>
    obtain ⟨fuel, rfl⟩ := Nat.exists_eq_add_one_of_ne_zero (Nat.ne_zero_of_lt hfuel)
    simp [linesFrom, line?, skipBlanks, skipComment]
  | @cons line said lines saids hline hlines ih =>
    obtain ⟨fuel, rfl⟩ := Nat.exists_eq_add_one_of_ne_zero (Nat.ne_zero_of_lt hfuel)
    have ih := ih fuel (by simpa using hfuel)
    rw [List.flatMap_cons, List.append_assoc, List.singleton_append, linesFrom_cons hline]
    cases said with
    | none => simp [Draft.after?, ih]
    | some statement => simp [Draft.after?, ih, Option.bind_eq_bind]

/-- No plain line starts with the mark of an encoded file. -/
theorem dropByteOrderMark_of_plainLine {line : List Char} {said : Option Statement}
    (h : PlainLine line said) (rest : List Char) :
    dropByteOrderMark (line ++ '\n' :: rest) = line ++ '\n' :: rest := by
  have keep : ∀ {c : Char} {cs : List Char}, c ≠ '\uFEFF' →
      dropByteOrderMark (c :: cs) = c :: cs := by
    intro c cs hc
    unfold dropByteOrderMark
    split
    · next heq => exact absurd (List.cons.inj heq).1 hc
    · rfl
  cases h with
  | blank | comment _ | header _ _ => exact keep (by decide)
  | @assign key cs v hkey hv =>
    obtain ⟨c, tail, htext⟩ := List.exists_cons_of_ne_nil (by simpa using hkey.1 : key.toList ≠ [])
    have hc := hkey.2 c (by simp [htext])
    rw [htext]
    exact keep (by rintro rfl; revert hc; decide)

/-- A document is read as its statements, applied one after the other to an empty table. -/
theorem read?_plainDocument {text : String} {statements : List Statement}
    (h : PlainDocument text statements) :
    read? text = (statements.foldlM Statement.extend? ⟨[], []⟩).map fun draft =>
      membersToToml draft.items := by
  obtain ⟨lines, said, hlines, htext, rfl⟩ := h
  have hmark : dropByteOrderMark text.toList = text.toList := by
    rw [htext]
    cases hlines with
    | nil => rfl
    | @cons line said lines saids hline _ =>
      rw [List.flatMap_cons, List.append_assoc, List.singleton_append]
      exact dropByteOrderMark_of_plainLine hline _
  -- one more than there are characters is more than there are lines
  have hfuel : lines.length < text.toList.length + 1 := by
    have : lines.length ≤ (lines.flatMap (· ++ ['\n'])).length := by
      clear hlines htext hmark
      induction lines with
      | nil => simp
      | cons line lines ih =>
        simp only [List.flatMap_cons, List.length_append, List.length_cons, List.length_nil] at ih ⊢
        omega
    rw [htext]
    omega
  rw [read?, hmark]
  simp only [htext] at hfuel ⊢
  rw [linesFrom_plainLines hlines _ hfuel]

end SovdConfig.Toml
