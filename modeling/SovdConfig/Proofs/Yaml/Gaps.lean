import SovdConfig.Proofs.Yaml.Tokens

namespace SovdConfig.Yaml

/-!
# Gaps between tokens

Main definitions:

* `Blanks` — blanks, comments and line breaks from one place of a text to another;
* `IsSolid` — whether a text does not start with any of these;
* `IsWord`, `wordsText` — the words of a plain scalar, and the scalar.

Main statements:

* `skipToToken_of_blanks` — the lexer skips a gap;
* `readPlain?_word`, `readPlain?_words` — the reader of plain scalars stops after a key, and
  somewhere in the gap after a value.
-/

/-! ### Gaps -/

/-- Blanks, comments and line breaks from one place of a text to another, the places being given by
    the text that is left and the column, and whether there is a line break among them. -/
inductive Blanks : Bool → List Char → Nat → List Char → Nat → Prop
  | here {cs : List Char} {n : Nat} : Blanks false cs n cs n
  | space {b : Bool} {cs cs' : List Char} {n n' : Nat} :
    Blanks b cs (n + 1) cs' n' → Blanks b (' ' :: cs) n cs' n'
  | newline {b : Bool} {cs cs' : List Char} {n n' : Nat} :
    Blanks b cs 0 cs' n' → Blanks true ('\n' :: cs) n cs' n'
  | comment {b : Bool} {note cs cs' : List Char} {n n' : Nat} :
    (∀ c ∈ note, isBreak c = false) → Blanks b cs 0 cs' n' →
      Blanks true ('#' :: note ++ '\n' :: cs) n cs' n'

/-- Whether a text does not start with a blank, a comment, a line break or a mark of the
    encoding. -/
def IsSolid (cs : List Char) : Prop :=
  ∀ c ∈ cs.head?, isSpace c = false ∧ c ≠ '#' ∧ c ≠ '\uFEFF'

namespace Blanks

variable {b : Bool} {cs cs' : List Char} {n n' : Nat}

/-- Several blanks in front. -/
theorem spaces (k : Nat) (h : Blanks b cs (n + k) cs' n') :
    Blanks b (List.replicate k ' ' ++ cs) n cs' n' := by
  induction k generalizing n with
  | zero => exact h
  | succ k ih =>
    refine .space (ih ?_)
    rwa [Nat.add_right_comm]

/-- The text that is left is the end of the text before. -/
theorem length_le (h : Blanks b cs n cs' n') : cs'.length ≤ cs.length := by
  induction h with
  | here => exact Nat.le_refl _
  | space _ ih | newline _ ih => exact Nat.le_succ_of_le ih
  | comment _ _ ih =>
    simp only [List.cons_append, List.length_cons, List.length_append]
    omega

end Blanks

/-! ### Skipping -/

namespace Cursor

/-- Past a mark of the encoding, blanks and a comment; tabs count as blanks if they may. -/
def pastBlanks (c : Cursor) (tabs : Bool) : Cursor :=
  let c := if c.mark.column = 0 ∧ c.startsWith '\uFEFF' then c.skip 1 else c
  (c.skipRun fun d => d = ' ' || (tabs && d = '\t')).skipComment

variable {cs : List Char} {m : Mark} {tabs : Bool}

/-- A blank in front is passed. -/
theorem pastBlanks_space (cs : List Char) (m : Mark) (tabs : Bool) :
    pastBlanks ⟨' ' :: cs, m⟩ tabs =
      pastBlanks ⟨cs, { m with index := m.index + 1, column := m.column + 1 }⟩ tabs := by
  simp [pastBlanks, startsWith, skipRun, skip, Nat.add_assoc, Nat.add_comm 1]

/-- Nothing is passed where a line breaks or a token starts. -/
theorem pastBlanks_of_head
    (h : ∀ c ∈ cs.head?, isBlank c = false ∧ c ≠ '#' ∧ c ≠ '\uFEFF') :
    pastBlanks ⟨cs, m⟩ tabs = ⟨cs, m⟩ := by
  cases cs with
  | nil => simp [pastBlanks, startsWith, skipRun, skip, skipComment]
  | cons c cs =>
    obtain ⟨hblank, hcomment, hmark⟩ := h c rfl
    have hspace : c ≠ ' ' ∧ c ≠ '\t' := by simpa [isBlank] using hblank
    simp [pastBlanks, startsWith, skipRun, skip, skipComment, hcomment, hmark, hspace]

/-- A comment is passed up to the end of its line. -/
theorem pastBlanks_comment {note : List Char} (hnote : ∀ c ∈ note, isBreak c = false)
    (cs : List Char) (m : Mark) (tabs : Bool) :
    ∃ m', pastBlanks ⟨'#' :: note ++ '\n' :: cs, m⟩ tabs = ⟨'\n' :: cs, m'⟩ := by
  have hrun : ('#' :: note ++ '\n' :: cs).takeWhile (fun d => !isBreak d) = '#' :: note := by
    rw [List.takeWhile_append_of_pos (by simpa using ⟨by decide, hnote⟩)]
    simp [isBreak]
  simp only [pastBlanks, startsWith, skipRun, skip, skipComment, List.cons_append] at hrun ⊢
  simp [hrun]

end Cursor

namespace Lexer

/-- Blanks and a comment are passed, and then perhaps a line break. -/
theorem skipToToken_succ (fuel : Nat) (l : Lexer) :
    skipToToken (fuel + 1) l =
      let c := l.cursor.pastBlanks (l.inFlow || !l.keyAllowed)
      if c.rest.head?.any isBreak then
        skipToToken fuel { l with cursor := c.skipBreak, keyAllowed := l.keyAllowed || !l.inFlow }
      else { l with cursor := c } := rfl

/-- Nothing is skipped where a token starts. -/
theorem skipToToken_of_isSolid {l : Lexer} (h : IsSolid l.cursor.rest) (fuel : Nat) :
    skipToToken (fuel + 1) l = l := by
  have hhead : ∀ c ∈ l.cursor.rest.head?, isBlank c = false ∧ c ≠ '#' ∧ c ≠ '\uFEFF' :=
    fun c hc => ⟨(Bool.or_eq_false_iff.1 (h c hc).1).1, (h c hc).2⟩
  have hbreak : l.cursor.rest.head?.any isBreak = false := by
    rw [Option.any_eq_false]
    exact fun c hc => by simp [(Bool.or_eq_false_iff.1 (h c hc).1).2]
  rw [skipToToken_succ, Cursor.pastBlanks_of_head hhead]
  simp [hbreak]

end Lexer

namespace Scan

open Lexer

/-- Where a line break comes after the blanks, a key may start after it. -/
theorem skipToToken_of_break {s : Scan} {p : Past} {cs : List Char} {m : Mark}
    (h : (s.lexer p []).cursor.pastBlanks (!s.keyAllowed) = ⟨'\n' :: cs, m⟩) (q : List Token)
    (fuel : Nat) :
    skipToToken (fuel + 1) (s.lexer p q) =
      skipToToken fuel ({ s with rest := cs, column := 0, keyAllowed := true }.lexer
        { p with index := m.index + 1, line := m.line + 1 } q) := by
  have hflow : (s.lexer p q).inFlow = false := rfl
  have hcursor : (s.lexer p q).cursor = (s.lexer p []).cursor := rfl
  have hallowed : (s.lexer p q).keyAllowed = s.keyAllowed := rfl
  rw [skipToToken_succ, hflow, hallowed, hcursor, Bool.false_or, h]
  simp [lexer, Cursor.skipBreak, isBreak]

/-- The lexer skips a gap.  A line break in it lets a key start after it. -/
theorem skipToToken_of_blanks {b : Bool} {cs cs' : List Char} {n n' : Nat}
    (h : Blanks b cs n cs' n') (hsolid : IsSolid cs') (s : Scan) (p : Past) (q : List Token)
    {fuel : Nat} (hfuel : cs.length < fuel) :
    ∃ index line, skipToToken fuel ({ s with rest := cs, column := n }.lexer p q) =
      { s with rest := cs', column := n', keyAllowed := s.keyAllowed || b }.lexer
        { p with index := index, line := line } q := by
  obtain ⟨fuel, rfl⟩ := Nat.exists_eq_add_one_of_ne_zero (Nat.ne_zero_of_lt hfuel)
  induction h generalizing s p fuel with
  | @here cs n =>
    exact ⟨p.index, p.line, by simp [skipToToken_of_isSolid, lexer, hsolid]⟩
  | @space b cs cs' n n' _ ih =>
    have hlength : cs.length < fuel + 1 := by
      rw [List.length_cons] at hfuel
      omega
    obtain ⟨index, line, h⟩ := ih hsolid s { p with index := p.index + 1 } _ hlength
    refine ⟨index, line, ?_⟩
    rw [← h, skipToToken_succ, skipToToken_succ]
    simp only [lexer, Cursor.pastBlanks_space]
    rfl
  | @newline b cs cs' n n' _ ih =>
    rw [List.length_cons, Nat.add_lt_add_iff_right] at hfuel
    obtain ⟨fuel, rfl⟩ := Nat.exists_eq_add_one_of_ne_zero (Nat.ne_zero_of_lt hfuel)
    obtain ⟨index, line, h⟩ := ih hsolid { s with keyAllowed := true }
      { p with index := p.index + 1, line := p.line + 1 } _ hfuel
    refine ⟨index, line, ?_⟩
    rw [skipToToken_of_break (Cursor.pastBlanks_of_head (by simp [isBlank]))]
    simpa using h
  | @comment b note cs cs' n n' hnote _ ih =>
    rw [List.cons_append, List.length_cons, Nat.add_lt_add_iff_right] at hfuel
    obtain ⟨fuel, rfl⟩ := Nat.exists_eq_add_one_of_ne_zero (Nat.ne_zero_of_lt hfuel)
    have hlength : cs.length < fuel + 1 := by
      rw [List.length_append, List.length_cons] at hfuel
      omega
    -- a note is passed in one step, which ends at the break behind it
    obtain ⟨m, hpast⟩ := Cursor.pastBlanks_comment hnote cs ⟨p.index, p.line, n⟩ !s.keyAllowed
    obtain ⟨index, line, h⟩ := ih hsolid { s with keyAllowed := true }
      { p with index := m.index + 1, line := m.line + 1 } _ hlength
    refine ⟨index, line, ?_⟩
    rw [skipToToken_of_break (s := { s with rest := _, column := n }) hpast]
    simpa using h

end Scan

/-! ### Words -/

/-- Whether the characters make up a word of a plain scalar. -/
def IsWord (w : List Char) : Prop :=
  w ≠ [] ∧ ∀ c ∈ w, isSpace c = false ∧ c ≠ ':' ∧ c ≠ '#'

instance (w : List Char) : Decidable (IsWord w) :=
  @instDecidableAnd _ _ inferInstance (List.decidableBAll _ w)

/-- Words with single blanks between them. -/
def wordsText (words : List (List Char)) : List Char := [' '].intercalate words

/-- After the first word come a blank and the others. -/
theorem wordsText_cons_cons (w v : List Char) (words : List (List Char)) :
    wordsText (w :: v :: words) = w ++ ' ' :: wordsText (v :: words) := by
  simp [wordsText]

/-- The first character of the scalar is that of the first word. -/
theorem exists_wordsText_cons (c : Char) (w : List Char) (words : List (List Char)) :
    ∃ tail, wordsText ((c :: w) :: words) = c :: tail := by
  cases words with
  | nil => exact ⟨w, by simp [wordsText]⟩
  | cons v words => exact ⟨w ++ ' ' :: wordsText (v :: words), by simp [wordsText_cons_cons]⟩

/-- Each word has a character. -/
theorem length_le_wordsText {words : List (List Char)} (h : ∀ w ∈ words, IsWord w) :
    words.length ≤ (wordsText words).length := by
  induction words with
  | nil => exact Nat.zero_le _
  | cons w words ih =>
    have hw := List.length_pos_iff.2 (h w (by simp)).1
    have hrest := ih fun v hv => h v (by simp [hv])
    cases words with
    | nil => simpa [wordsText] using Nat.succ_le_of_lt hw
    | cons v words =>
      simp only [wordsText_cons_cons, List.length_append, List.length_cons] at hrest ⊢
      omega

/-- A word is read up to where one ends. -/
theorem plainRun_word {w : List Char} (h : ∀ c ∈ w, isSpace c = false ∧ c ≠ ':' ∧ c ≠ '#')
    {rest : List Char} (hrest : plainRun false rest = some []) :
    plainRun false (w ++ rest) = some w := by
  induction w with
  | nil => exact hrest
  | cons c w ih =>
    obtain ⟨hspace, hcolon, -⟩ := h c (by simp)
    simp [plainRun, hspace, hcolon, ih fun d hd => h d (by simp [hd])]

/-- Blanks and line breaks up to something else, which may be a comment. -/
def pastSpaces : List Char → Nat → List Char × Nat
  | ' ' :: cs, n => pastSpaces cs (n + 1)
  | '\n' :: cs, _ => pastSpaces cs 0
  | cs, n => (cs, n)

/-- No blank comes before a token. -/
theorem pastSpaces_of_isSolid {cs : List Char} (h : IsSolid cs) (n : Nat) :
    pastSpaces cs n = (cs, n) := by
  unfold pastSpaces
  split
  · exact absurd (h ' ' rfl).1 (by decide)
  · exact absurd (h '\n' rfl).1 (by decide)
  · rfl

/-- After blanks and line breaks, the rest of a gap is a gap.  It is empty or starts with a
    comment. -/
theorem Blanks.pastSpaces {b : Bool} {cs cs' : List Char} {n n' : Nat} (h : Blanks b cs n cs' n')
    (hsolid : IsSolid cs') :
    (∃ b', Blanks b' (pastSpaces cs n).1 (pastSpaces cs n).2 cs' n') ∧
      ((Yaml.pastSpaces cs n).1.head? = some '#' ∨ (Yaml.pastSpaces cs n).2 = n') ∧
        (Yaml.pastSpaces cs n).1.length ≤ cs.length := by
  induction h with
  | here =>
    rw [pastSpaces_of_isSolid hsolid]
    exact ⟨⟨false, .here⟩, .inr rfl, Nat.le_refl _⟩
  | space _ ih | newline _ ih =>
    obtain ⟨hblanks, hstop, hlength⟩ := ih hsolid
    exact ⟨hblanks, hstop, Nat.le_succ_of_le hlength⟩
  | comment hnote h => exact ⟨⟨true, .comment hnote h⟩, .inl rfl, Nat.le_refl _⟩

/-- After a line break, a gap is read as far as it is blank. -/
theorem readGap_of_blanks {b : Bool} {cs cs' : List Char} {n n' : Nat} (h : Blanks b cs n cs' n')
    (hsolid : IsSolid cs') (indent : Nat) {fuel : Nat} (hfuel : cs.length ≤ fuel) {g : Gap}
    (hg : g.broken = true) (index line : Nat) :
    ∃ g' index' line', g'.broken = true ∧
      readGap indent fuel g ⟨cs, ⟨index, line, n⟩⟩ =
        some (g', ⟨(pastSpaces cs n).1, ⟨index', line', (pastSpaces cs n).2⟩⟩) := by
  induction h generalizing fuel g index line with
  | @here cs n =>
    refine ⟨g, index, line, hg, ?_⟩
    rw [pastSpaces_of_isSolid hsolid]
    cases fuel with
    | zero => rfl
    | succ fuel =>
      cases cs with
      | nil => rfl
      | cons c cs =>
        obtain ⟨hblank, hbreak⟩ := Bool.or_eq_false_iff.1 (hsolid c rfl).1
        simp [readGap, hblank, hbreak]
  | @space b cs cs' n n' _ ih =>
    obtain ⟨fuel, rfl⟩ := Nat.exists_eq_add_one_of_ne_zero (Nat.ne_zero_of_lt hfuel)
    simpa [readGap, pastSpaces, isBlank, hg, Cursor.skip] using
      ih hsolid (Nat.le_of_succ_le_succ hfuel) hg (index + 1) line
  | @newline b cs cs' n n' _ ih =>
    obtain ⟨fuel, rfl⟩ := Nat.exists_eq_add_one_of_ne_zero (Nat.ne_zero_of_lt hfuel)
    have hg' : ({ g with trail := g.trail ++ ['\n'] } : Gap).broken = true := hg
    simpa [readGap, pastSpaces, isBlank, isBreak, hg, Cursor.skipBreak, Cursor.breakText] using
      ih hsolid (Nat.le_of_succ_le_succ hfuel) hg' (index + 1) (line + 1)
  | @comment b note cs cs' n n' hnote h ih =>
    obtain ⟨fuel, rfl⟩ := Nat.exists_eq_add_one_of_ne_zero (Nat.ne_zero_of_lt hfuel)
    exact ⟨g, index, line, hg, by simp [readGap, pastSpaces, isBlank, isBreak]⟩

/-- A line break starts a gap. -/
theorem readGap_newline {b : Bool} {cs cs' : List Char} {n' : Nat} (h : Blanks b cs 0 cs' n')
    (hsolid : IsSolid cs') (indent : Nat) {fuel : Nat} (hfuel : cs.length < fuel)
    (index line n : Nat) :
    ∃ g' index' line', g'.broken = true ∧
      readGap indent fuel {} ⟨'\n' :: cs, ⟨index, line, n⟩⟩ =
        some (g', ⟨(pastSpaces cs 0).1, ⟨index', line', (pastSpaces cs 0).2⟩⟩) := by
  obtain ⟨fuel, rfl⟩ := Nat.exists_eq_add_one_of_ne_zero (Nat.ne_zero_of_lt hfuel)
  have hg : ({ lead := ['\n'], broken := true } : Gap).broken = true := rfl
  simpa [readGap, isBlank, isBreak, Cursor.skipBreak, Cursor.breakText] using
    readGap_of_blanks h hsolid indent (Nat.le_of_lt_succ hfuel) hg (index + 1) (line + 1)

/-- One blank before a word is a gap. -/
theorem readGap_blank {c : Char} (hc : isSpace c = false) (cs : List Char)
    (indent fuel index line : Nat)
    (n : Nat) :
    readGap indent (fuel + 1) {} ⟨' ' :: c :: cs, ⟨index, line, n⟩⟩ =
      some ({ blanks := [' '] }, ⟨c :: cs, ⟨index + 1, line, n + 1⟩⟩) := by
  obtain ⟨hblank, hbreak⟩ := Bool.or_eq_false_iff.1 hc
  have hspace : isBlank ' ' = true := rfl
  cases fuel with
  | zero => simp [readGap, hspace, Cursor.skip]
  | succ fuel => simp [readGap, hspace, Cursor.skip, hblank, hbreak]

/-! ### Plain scalars -/

/-- A word is followed by a character that ends it. -/
theorem plainRun_eq_nil {c : Char} {rest : List Char}
    (h : isSpace c = true ∨ c = ':' ∧ endsWord rest = true) :
    plainRun false (c :: rest) = some [] := by
  rcases h with h | ⟨rfl, h⟩
  · simp [plainRun, h]
  · simp [plainRun, h]

/-- A key is read up to its colon. -/
theorem readPlain?_key {w rest : List Char} (hw : IsWord w) (hrest : endsWord rest = true)
    (indent : Nat) {m : Mark} (hmark : Cursor.atDocumentMark ⟨w ++ ':' :: rest, m⟩ = false) :
    readPlain? false indent ⟨w ++ ':' :: rest, m⟩ =
      some ⟨w, Cursor.skip ⟨w ++ ':' :: rest, m⟩ w.length, false⟩ := by
  obtain ⟨hne, hchars⟩ := hw
  have hrun : plainRun false (w ++ ':' :: rest) = some w :=
    plainRun_word hchars (plainRun_eq_nil (.inr ⟨rfl, hrest⟩))
  have hcomment : Cursor.startsWith ⟨w ++ ':' :: rest, m⟩ '#' = false := by
    obtain ⟨c, w, rfl⟩ := List.exists_cons_of_ne_nil hne
    simpa [Cursor.startsWith] using (hchars c (by simp)).2.2
  simp [readPlain?, plainFrom, hmark, hcomment, hrun, hne, Cursor.skip, Gap.text, isSpace, isBlank,
    isBreak]

/-- After a word comes a gap, and then perhaps another word. -/
theorem plainFrom_word {w : List Char} (hw : IsWord w) {d : Char} (hd : isSpace d = true)
    (rest : List Char) (indent fuel : Nat) (text : List Char) (g : Gap) {index line n : Nat}
    (hn : n ≠ 0) :
    plainFrom false indent (fuel + 1) text g ⟨w ++ d :: rest, ⟨index, line, n⟩⟩ =
      (readGap indent (rest.length + 1) {}
        ⟨d :: rest, ⟨index + w.length, line, n + w.length⟩⟩).bind fun (g', next) =>
          if next.mark.column < indent then some ⟨text ++ g.text ++ w, next, g'.broken⟩
          else plainFrom false indent fuel (text ++ g.text ++ w) g' next := by
  obtain ⟨hne, hchars⟩ := hw
  have hrun : plainRun false (w ++ d :: rest) = some w :=
    plainRun_word hchars (plainRun_eq_nil (.inl hd))
  have hcomment : Cursor.startsWith ⟨w ++ d :: rest, ⟨index, line, n⟩⟩ '#' = false := by
    obtain ⟨c, w, rfl⟩ := List.exists_cons_of_ne_nil hne
    simpa [Cursor.startsWith] using (hchars c (by simp)).2.2
  have hmark : Cursor.atDocumentMark ⟨w ++ d :: rest, ⟨index, line, n⟩⟩ = false := by
    simp [Cursor.atDocumentMark, hn]
  rw [plainFrom]
  simp [hmark, hcomment, hrun, hne, Cursor.skip, hd]

/-- A value is read up to the end of its line, and the gap after it as far as it is blank. -/
theorem plainFrom_words {words : List (List Char)} (hne : words ≠ [])
    (hwords : ∀ w ∈ words, IsWord w) {b : Bool} {cs cs' : List Char} {n' : Nat}
    (h : Blanks b cs 0 cs' n') (hsolid : IsSolid cs') {indent : Nat} (hindent : n' < indent)
    {n fuel : Nat} (hn : indent ≤ n) (hfuel : words.length < fuel) (text : List Char) (g : Gap)
    (index line : Nat) :
    ∃ index' line', plainFrom false indent fuel text g
        ⟨wordsText words ++ '\n' :: cs, ⟨index, line, n⟩⟩ =
      some ⟨text ++ g.text ++ wordsText words,
        ⟨(pastSpaces cs 0).1, ⟨index', line', (pastSpaces cs 0).2⟩⟩, true⟩ := by
  induction words generalizing n fuel text g index with
  | nil => exact absurd rfl hne
  | cons w words ih =>
    obtain ⟨fuel, rfl⟩ := Nat.exists_eq_add_one_of_ne_zero (Nat.ne_zero_of_lt hfuel)
    have hw := hwords w (by simp)
    cases words with
    | nil =>
      obtain ⟨g', index', line', hbroken, hgap⟩ :=
        readGap_newline h hsolid indent (Nat.lt_succ_self cs.length) (index + w.length) line
          (n + w.length)
      refine ⟨index', line', ?_⟩
      rw [wordsText, List.intercalate_singleton, plainFrom_word hw rfl _ _ _ _ _ (by omega), hgap,
        Option.bind_some]
      -- the scalar ends at a comment, or because the next token is indented less
      rcases (h.pastSpaces hsolid).2.1 with hstop | hcolumn
      · obtain ⟨fuel, rfl⟩ := Nat.exists_eq_add_one_of_ne_zero
          (Nat.ne_zero_of_lt (Nat.lt_of_succ_lt_succ hfuel))
        simp [plainFrom, Cursor.startsWith, hstop, hbroken]
      · simp [hcolumn, hindent, hbroken]
    | cons w' words =>
      obtain ⟨index', line', hrest⟩ := ih (by simp) (fun v hv => hwords v (by simp [hv]))
        (n := n + w.length + 1) (by omega) (Nat.lt_of_succ_lt_succ hfuel) (text ++ g.text ++ w)
        { blanks := [' '] } (index + w.length + 1)
      refine ⟨index', line', ?_⟩
      obtain ⟨d, v, rfl⟩ := List.exists_cons_of_ne_nil (hwords w' (by simp)).1
      have hd : isSpace d = false := ((hwords (d :: v) (by simp)).2 d (by simp)).1
      obtain ⟨tail, htail⟩ := exists_wordsText_cons d v words
      rw [htail] at hrest
      rw [wordsText_cons_cons, List.append_assoc, List.cons_append, plainFrom_word hw rfl _ _ _ _ _
        (by omega), htail, List.cons_append, readGap_blank hd, Option.bind_some]
      simpa [Nat.not_lt.2 (show indent ≤ n + w.length + 1 by omega), Gap.text] using hrest

/-- A value is read, and the gap after it as far as it is blank. -/
theorem readPlain?_words {words : List (List Char)} (hne : words ≠ [])
    (hwords : ∀ w ∈ words, IsWord w) {b : Bool} {cs cs' : List Char} {n' : Nat}
    (h : Blanks b cs 0 cs' n') (hsolid : IsSolid cs') {indent n : Nat} (hindent : n' < indent)
    (hn : indent ≤ n) (index line : Nat) :
    ∃ index' line', readPlain? false indent ⟨wordsText words ++ '\n' :: cs, ⟨index, line, n⟩⟩ =
      some ⟨wordsText words, ⟨(pastSpaces cs 0).1, ⟨index', line', (pastSpaces cs 0).2⟩⟩,
        true⟩ := by
  have hlength := length_le_wordsText hwords
  have hfuel : words.length < (wordsText words ++ '\n' :: cs).length + 1 := by
    rw [List.length_append]
    omega
  exact plainFrom_words hne hwords h hsolid hindent hn hfuel [] {} index line

end SovdConfig.Yaml
