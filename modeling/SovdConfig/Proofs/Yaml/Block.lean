import SovdConfig.Proofs.Yaml.Gaps

namespace SovdConfig.Yaml

/-!
# Tokens of block collections

One token or a few come from each key, each value and each hyphen of a text in block style.  Main
definitions:

* `Scan.Before` — a place with nothing but a gap before a key or a hyphen;
* `Scan.Closes` — how many block collections end at a column.

Main statements: `Scan.yields_key`, `Scan.yields_value`, `Scan.yields_hyphen` and
`Scan.ends_of_blanks`.
-/

open Lexer

/-! ### Scalars -/

/-- Whether a plain scalar starts here, with a letter, a digit, or a minus sign before another
    character. -/
def StartsScalar (cs : List Char) : Prop :=
  ∃ c rest, cs = c :: rest ∧ (c.isAlphanum = true ∨ c = '-' ∧ endsWord rest = false)

/-- A hyphen is no gap. -/
theorem isSolid_hyphen (rest : List Char) : IsSolid ('-' :: rest) := by
  rintro d ⟨⟩
  decide

/-- Letters and digits are no blanks, line breaks or indicators. -/
theorem ne_of_isAlphanum {c : Char} (h : c.isAlphanum = true) :
    ∀ d ∈ "%-.[]\x7b\x7d,?:*&!|>'\"#@` \t\r\n\u0085\u2028\u2029\uFEFF".toList, c ≠ d := by
  have hmarks : ∀ d ∈ "%-.[]\x7b\x7d,?:*&!|>'\"#@` \t\r\n\u0085\u2028\u2029\uFEFF".toList,
      d.isAlphanum = false := by decide
  rintro d hd rfl
  exact Bool.false_ne_true ((hmarks c hd).symm.trans h)

/-- A line that starts with another character does not start with three of the given one. -/
theorem isTriple_of_ne {c d : Char} (h : c ≠ d) (rest : List Char) :
    isTriple d (c :: rest) = false := by
  unfold isTriple
  split
  · next heq => simp_all
  · rfl

/-- No document starts or ends where a letter or a digit comes. -/
theorem isDocumentMark_of_isAlphanum {c : Char} (h : c.isAlphanum = true) (rest : List Char) :
    isDocumentMark (c :: rest) = false := by
  have hne := ne_of_isAlphanum h
  rw [isDocumentMark, isTriple_of_ne (hne '-' (by decide)), isTriple_of_ne (hne '.' (by decide))]
  rfl

namespace StartsScalar

variable {cs : List Char}

/-- What follows does not matter. -/
theorem append (h : StartsScalar cs) (more : List Char) : StartsScalar (cs ++ more) := by
  obtain ⟨c, rest, rfl, hc⟩ := h
  refine ⟨c, rest ++ more, rfl, hc.imp_right fun ⟨hminus, hrest⟩ => ⟨hminus, ?_⟩⟩
  cases rest with
  | nil => simp [endsWord] at hrest
  | cons d rest => exact hrest

/-- A scalar is a token. -/
theorem isSolid (h : StartsScalar cs) : IsSolid cs := by
  obtain ⟨c, rest, rfl, hc | ⟨rfl, -⟩⟩ := h
  · rintro d ⟨⟩
    have hne := ne_of_isAlphanum hc
    simp at hne
    simp [isSpace, isBlank, isBreak, hne]
  · rintro d ⟨⟩
    decide

/-- The lexer reads a plain scalar, unless this is the start of a line that ends the document. -/
theorem fetchToken? {l : Lexer} (h : StartsScalar l.cursor.rest) (hflow : l.inFlow = false)
    (hmark : l.cursor.atDocumentMark = false) : l.fetchToken? = l.fetchPlain? := by
  obtain ⟨c, rest, hrest, hc⟩ := h
  rcases hc with hc | ⟨rfl, hword⟩
  · have hne := ne_of_isAlphanum hc
    simp at hne
    simp [Lexer.fetchToken?, hrest, isTriple_of_ne, hne, hflow, isSpace, isBlank, isBreak,
      startsPlain]
  · have htriple : ¬ (l.mark.column = 0 ∧ isTriple '-' ('-' :: rest) = true) := by
      rintro ⟨hcolumn, htriple⟩
      have hcolumn : l.cursor.mark.column = 0 := hcolumn
      simp [Cursor.atDocumentMark, isDocumentMark, hcolumn, hrest, htriple] at hmark
    have hother : isTriple '.' ('-' :: rest) = false := isTriple_of_ne (by decide) rest
    have hspace : isSpace '-' = false := by decide
    have hblank : rest.head?.any isBlank = false := by
      cases rest with
      | nil => rfl
      | cons d rest => exact (Bool.or_eq_false_iff.1 hword).1
    simp [Lexer.fetchToken?, hrest, htriple, hother, hword, hspace, startsPlain, hblank]

end StartsScalar

namespace Lexer

/-- Where no key may start, a plain scalar is one token. -/
theorem fetchPlain?_of_not_keyAllowed {l : Lexer} (hallowed : l.keyAllowed = false)
    {run : ScalarRun} (h : readPlain? l.inFlow (l.indent + 1).toNat l.cursor = some run) :
    l.fetchPlain? = some ({ l with keyAllowed := run.broken }.push
      (.scalar (String.ofList run.text) .plain) l.mark run.next) := by
  have hkey : l.saveKey? = some l := by simp [saveKey?, hallowed]
  simp [fetchPlain?, hkey, h]

end Lexer

/-- Whether a text is a plain scalar on one line. -/
structure IsPlain (v : List Char) : Prop where
  words : ∃ words : List (List Char), words ≠ [] ∧ wordsText words = v ∧ ∀ w ∈ words, IsWord w
  starts : StartsScalar v

/-- A word is a plain scalar. -/
theorem IsPlain.ofWord {v : List Char} (h : IsWord v) (hstarts : StartsScalar v) : IsPlain v :=
  ⟨⟨[v], by simp, by simp [wordsText], by simpa using h⟩, hstarts⟩

/-- A letter or a digit may stand in a word. -/
theorem isWord_of_isAlphanum {c : Char} (h : c.isAlphanum = true) :
    isSpace c = false ∧ c ≠ ':' ∧ c ≠ '#' := by
  have hne := ne_of_isAlphanum h
  simp at hne
  simp [isSpace, isBlank, isBreak, hne]

/-- Letters and digits are a plain scalar. -/
theorem IsPlain.ofAlphanum {v : List Char} (hne : v ≠ []) (h : ∀ c ∈ v, c.isAlphanum = true) :
    IsPlain v := by
  obtain ⟨c, cs, rfl⟩ := List.exists_cons_of_ne_nil hne
  exact .ofWord ⟨hne, fun d hd => isWord_of_isAlphanum (h d hd)⟩
    ⟨c, cs, rfl, .inl (h c List.mem_cons_self)⟩

/-- Whether a text is a key: one word that is not too long. -/
def IsKey (k : List Char) : Prop :=
  IsWord k ∧ k.head?.any Char.isAlphanum = true ∧ k.length ≤ 1024

instance (k : List Char) : Decidable (IsKey k) := by
  unfold IsKey; infer_instance

namespace IsKey

variable {k : List Char}

/-- A key starts a plain scalar. -/
theorem startsScalar (h : IsKey k) (rest : List Char) : StartsScalar (k ++ rest) := by
  obtain ⟨c, w, rfl⟩ := List.exists_cons_of_ne_nil h.1.1
  exact ⟨c, w ++ rest, rfl, .inl h.2.1⟩

/-- No document starts or ends with a key. -/
theorem atDocumentMark (h : IsKey k) (rest : List Char) (m : Mark) :
    Cursor.atDocumentMark ⟨k ++ rest, m⟩ = false := by
  obtain ⟨c, w, rfl⟩ := List.exists_cons_of_ne_nil h.1.1
  have hhead := isDocumentMark_of_isAlphanum h.2.1 (w ++ rest)
  simp [Cursor.atDocumentMark, hhead]

end IsKey

/-! ### Places in blocks -/

namespace Scan

/-- Whether nothing but a gap comes before the given text in the given column, where a key may
    start. -/
def Before (s : Scan) (cs : List Char) (n : Nat) : Prop :=
  ∃ b, Blanks b s.rest s.column cs n ∧ (s.keyAllowed || b) = true

/-- How many block collections with the given indentations end at a column, and which remain. -/
inductive Closes (column : Int) : Int → List Int → Nat → Int → List Int → Prop
  | stay {indent : Int} {outer : List Int} :
    indent ≤ column → Closes column indent outer 0 indent outer
  | close {indent next indent' : Int} {outer outer' : List Int} {k : Nat} :
    column < indent → Closes column next outer k indent' outer' →
      Closes column indent (next :: outer) (k + 1) indent' outer'

/-- The token at the start of a block collection in a column, unless the collection is open. -/
def opening (indent : Int) (n : Nat) (start : TokenKind) : List TokenKind :=
  if indent < n then [start] else []

/-- What is open around a block collection in a column, which may be open itself. -/
def around (indent : Int) (outer : List Int) (n : Nat) : List Int :=
  if indent < n then indent :: outer else outer

/-- The place after the start of a block collection in a column, if it is indented more. -/
def opened (s : Scan) (n : Nat) : Scan :=
  { s with indent := if s.indent < n then n else s.indent, outer := around s.indent s.outer n }

variable {s s' : Scan} {p : Past} {cs : List Char} {n : Nat}

/-- The ends of collections are made ready. -/
theorem unrollFrom_of_closes {column indent indent' : Int} {outer outer' : List Int} {k : Nat}
    (h : Closes column indent outer k indent' outer') (s : Scan) (p : Past) (q : List Token) :
    ∃ ts, ts.map Token.kind = List.replicate k .blockEnd ∧
      unrollFrom column outer ({ s with indent := indent, outer := outer }.lexer p q) =
        { s with indent := indent', outer := outer' }.lexer p (q ++ ts) := by
  induction h generalizing q with
  | @stay indent outer hle =>
    refine ⟨[], rfl, ?_⟩
    rw [List.append_nil]
    cases outer with
    | nil => rfl
    | cons next outer => simp [unrollFrom, lexer, Int.not_lt.2 hle]
  | @close indent next indent' outer outer' k hlt _ ih =>
    let m : Mark := ⟨p.index, p.line, s.column⟩
    obtain ⟨ts, hkinds, h⟩ := ih (q ++ [⟨.blockEnd, m, m⟩])
    refine ⟨⟨.blockEnd, m, m⟩ :: ts, by simp [hkinds, List.replicate_succ], ?_⟩
    rw [List.append_assoc, List.singleton_append] at h
    rw [← h, unrollFrom]
    exact if_pos hlt

/-- Before a token, a gap is skipped, and collections end. -/
theorem fetch?_of_blanks {b : Bool} {k : Nat} {indent : Int} {outer : List Int}
    (h : Blanks b s.rest s.column cs n) (hsolid : IsSolid cs)
    (hcloses : Closes n s.indent s.outer k indent outer) (p : Past) :
    ∃ index line ts, ts.map Token.kind = List.replicate k .blockEnd ∧
      (s.lexer p []).fetch? =
        ({ rest := cs, column := n, indent, outer, keyAllowed := s.keyAllowed || b : Scan }.lexer
          { p with index, line } ts).fetchToken? := by
  obtain ⟨index, line, hskip⟩ := skipToToken_of_blanks h hsolid s p []
    (Nat.lt_succ_self s.rest.length)
  obtain ⟨ts, hkinds, hunroll⟩ := unrollFrom_of_closes hcloses
    { s with rest := cs, column := n, keyAllowed := s.keyAllowed || b } { p with index, line } []
  refine ⟨index, line, ts, hkinds, ?_⟩
  have hfetch : (s.lexer p []).fetch? =
      ((skipToToken (s.rest.length + 1) (s.lexer p [])).dropStale?.bind fun l =>
        (l.unrollIndent l.mark.column).fetchToken?) := rfl
  rw [hfetch, hskip, ← List.nil_append ts, ← hunroll]
  rfl

/-- A value of a key comes before the next line. -/
theorem yields_value {v more : List Char} (hv : IsPlain v)
    (hrest : s.rest = ' ' :: v ++ '\n' :: more) (hallowed : s.keyAllowed = false) {b : Bool}
    (hmore : Blanks b more 0 cs n) (hsolid : IsSolid cs) (hn : n ≤ s.indent)
    (hindent : s.indent ≤ s.column) :
    s.Yields [.scalar (String.ofList v) .plain]
      { s with
        rest := (pastSpaces more 0).1, column := (pastSpaces more 0).2, keyAllowed := true } := by
  obtain ⟨words, hne, rfl, hwords⟩ := hv.words
  have hlength := (hmore.pastSpaces hsolid).2.2
  refine yields_of_settles (by simp) (by simp) ?_ fun p => ?_
  · simp only [hrest, List.length_cons, List.length_nil, List.length_append]
    omega
  · have hblanks : Blanks false s.rest s.column (wordsText words ++ '\n' :: more)
        (s.column + 1) := by
      rw [hrest]
      exact .space .here
    have hstarts := hv.starts.append ('\n' :: more)
    obtain ⟨index, line, ts, hkinds, hfetch⟩ :=
      fetch?_of_blanks hblanks hstarts.isSolid (.stay (by omega)) p
    obtain rfl : ts = [] := by simpa using hkinds
    have hless : n < (s.indent + 1).toNat := by omega
    have hle : (s.indent + 1).toNat ≤ s.column + 1 := by omega
    -- the word ends at a line that is indented less, so the text after it is not read as more of it
    obtain ⟨index', line', hread⟩ :=
      readPlain?_words hne hwords hmore hsolid hless hle index line
    let l : Lexer := Scan.lexer { s with
      rest := wordsText words ++ '\n' :: more, column := s.column + 1,
      keyAllowed := s.keyAllowed || false } { p with index := index, line := line } []
    have htoken : l.fetchToken? = l.fetchPlain? :=
      hstarts.fetchToken? rfl (by simp [l, lexer, Cursor.atDocumentMark])
    have hallowed' : l.keyAllowed = false := by simp [l, lexer, hallowed]
    have hplain := fetchPlain?_of_not_keyAllowed hallowed' hread
    let t : Token := ⟨.scalar (String.ofList (wordsText words)) .plain, l.mark,
      ⟨index', line', (pastSpaces more 0).2⟩⟩
    have hready := settles_lexer { s with
      rest := (pastSpaces more 0).1, column := (pastSpaces more 0).2, keyAllowed := true }
      ⟨index', line', p.taken⟩ (List.cons_ne_nil t [])
    exact ⟨1, ⟨index', line', p.taken⟩, [t], by decide, rfl,
      .empty rfl (hfetch.trans (htoken.trans hplain)) hready⟩

/-- The lexer after a word that may be a key: the word is ready, but not certain. -/
def pending (s : Scan) (p : Past) (t : Token) (key : PossibleKey) : Lexer :=
  { s.lexer p [t] with keys := [some key] }

/-- A word before a colon is a scalar at first, where a key may have started. -/
theorem fetchPlain?_key {k rest : List Char} (hk : IsKey k) (hrest : endsWord rest = true)
    (s : Scan) (p : Past) (n : Nat) :
    ∃ t : Token, t.kind = .scalar (String.ofList k) .plain ∧
      Lexer.fetchPlain?
          ({ s with rest := k ++ ':' :: rest, column := n, keyAllowed := true }.lexer p []) =
        some ({ s with rest := ':' :: rest, column := n + k.length, keyAllowed := false }.pending
          { p with index := p.index + k.length } t
          ⟨s.indent == n, p.taken, ⟨p.index, p.line, n⟩⟩) := by
  let m : Mark := ⟨p.index, p.line, n⟩
  have hread := readPlain?_key hk.1 hrest (s.indent + 1).toNat (hk.atDocumentMark (':' :: rest) m)
  refine ⟨⟨_, m, ⟨p.index + k.length, p.line, n + k.length⟩⟩, rfl, ?_⟩
  simp [fetchPlain?, saveKey?, dropKey?, lexer, pending, inFlow, Lexer.mark, push, hread,
    Cursor.skip, m]

/-- A key that is not stale stays possible. -/
theorem dropStale?_pending {s : Scan} {p : Past} {t : Token} {key : PossibleKey}
    (h : (s.lexer p [t]).isStale key = false) :
    (s.pending p t key).dropStale? = some (s.pending p t key) := by
  have hfresh : (s.pending p t key).refresh? (some key) = some (some key) := if_neg (by
    rw [Bool.not_eq_true]
    exact h)
  show ([some key].mapM (s.pending p t key).refresh?).map _ = _
  simp [hfresh]
  rfl

/-- The colon after a word shows that it was a key. -/
theorem fetch?_colon {rest : List Char} (hrest : endsWord rest = true) {s : Scan} {p : Past}
    (t : Token) {key : PossibleKey} (hcolon : s.rest = ':' :: rest) (hnumber : key.number = p.taken)
    (hindent : s.indent ≤ s.column)
    (hstale : (s.pending p t key).dropStale? = some (s.pending p t key)) :
    ∃ ts : List Token,
      ts.map Token.kind =
        opening s.indent key.mark.column .blockMappingStart ++ [.key, t.kind, .value] ∧
      (s.pending p t key).fetch? = some
        ({ s.opened key.mark.column with
            rest := rest, column := s.column + 1, keyAllowed := false }.lexer
          { p with index := p.index + 1 } ts) := by
  have hsolid : IsSolid (s.pending p t key).cursor.rest := by
    show IsSolid s.rest
    rw [hcolon]
    rintro d ⟨⟩
    decide
  have hskip := skipToToken_of_isSolid hsolid s.rest.length
  -- the colon does not stand further out than the mapping around it, so that one goes on
  have hunroll : (s.pending p t key).unrollIndent s.column = s.pending p t key := by
    show unrollFrom s.column s.outer (s.pending p t key) = s.pending p t key
    cases s.outer with
    | nil => rfl
    | cons next outer => exact if_neg (Int.not_lt.2 hindent)
  have hfetch : (s.pending p t key).fetch? = (s.pending p t key).fetchToken? := by
    have hsteps : (s.pending p t key).fetch? =
        ((skipToToken (s.rest.length + 1) (s.pending p t key)).dropStale?.bind fun l =>
          (l.unrollIndent l.mark.column).fetchToken?) := rfl
    rw [hsteps, hskip, hstale]
    exact congrArg Lexer.fetchToken? hunroll
  have htoken : (s.pending p t key).fetchToken? = (s.pending p t key).fetchValue? := by
    have hcursor : (s.pending p t key).cursor.rest = ':' :: rest := hcolon
    simp [Lexer.fetchToken?, hcursor, isTriple_of_ne, hrest]
  rw [hfetch, htoken]
  let start : Token := ⟨.blockMappingStart, key.mark, key.mark⟩
  let mark : Token := ⟨.key, key.mark, key.mark⟩
  let colon : Token :=
    ⟨.value, ⟨p.index, p.line, s.column⟩, ⟨p.index + 1, p.line, s.column + 1⟩⟩
  -- the first key of a mapping opens it
  by_cases hopens : s.indent < key.mark.column
  · refine ⟨[start, mark, t, colon], by simp [opening, hopens, start, mark, colon], ?_⟩
    simp [fetchValue?, pending, lexer, insertBefore, rollIndent, inFlow, hopens, hnumber, opened,
      around, push, Cursor.skip, hcolon, Lexer.mark, start, mark, colon]
  · refine ⟨[mark, t, colon], by simp [opening, hopens, mark, colon], ?_⟩
    simp [fetchValue?, pending, lexer, insertBefore, rollIndent, inFlow, hopens, hnumber, opened,
      around, push, Cursor.skip, hcolon, Lexer.mark, mark, colon]

/-- A key comes before its colon.  A mapping may start with it. -/
theorem yields_key {k rest : List Char} (hk : IsKey k) (hrest : endsWord rest = true)
    (h : s.Before (k ++ ':' :: rest) n) (hindent : s.indent ≤ n) :
    s.Yields
      (opening s.indent n .blockMappingStart ++ [.key, .scalar (String.ofList k) .plain, .value])
      { s.opened n with rest := rest, column := n + k.length + 1, keyAllowed := false } := by
  obtain ⟨b, hblanks, hallowed⟩ := h
  have hstarts := hk.startsScalar (':' :: rest)
  refine yields_of_settles (by simp) ?_ ?_ fun p => ?_
  · unfold opening
    split <;> simp
  · have hlength := hblanks.length_le
    have hkinds : (opening s.indent n .blockMappingStart).length ≤ 1 := by
      unfold opening
      split <;> simp
    have hpos := List.length_pos_iff.2 hk.1.1
    simp only [List.length_append, List.length_cons, List.length_nil] at hlength ⊢
    omega
  · -- the word is fetched first, then the colon, which settles what the word is
    obtain ⟨index, line, ts, hkinds, hfetch⟩ :=
      fetch?_of_blanks hblanks hstarts.isSolid (.stay hindent) p
    obtain rfl : ts = [] := by simpa using hkinds
    obtain ⟨t, hkind, hplain⟩ := fetchPlain?_key hk hrest s { p with index, line } n
    rw [hallowed, hstarts.fetchToken? rfl (hk.atDocumentMark _ _), hplain] at hfetch
    let word : Scan := { s with rest := ':' :: rest, column := n + k.length, keyAllowed := false }
    let p' : Past := ⟨index + k.length, line, p.taken⟩
    let key : PossibleKey := ⟨s.indent == n, p.taken, ⟨index, line, n⟩⟩
    have hstale : (word.pending p' t key).dropStale? = some (word.pending p' t key) := by
      refine dropStale?_pending ?_
      have hshort : ¬ index + 1024 < index + k.length := Nat.not_lt.2 (Nat.add_le_add_left hk.2.2 _)
      simp [isStale, word, lexer, p', key, Lexer.mark, hshort]
    have hcolumn : word.indent ≤ word.column := by
      show s.indent ≤ ((n + k.length : Nat) : Int)
      omega
    obtain ⟨ts, hts, hcolon⟩ :=
      fetch?_colon hrest (s := word) (p := p') t rfl (rfl : key.number = p'.taken) hcolumn hstale
    rw [hkind] at hts
    have hpending : (word.pending p' t key).mayBecomeKey = true := by
      simp [mayBecomeKey, pending, lexer, p', key]
    -- the key mark is put in before the word, so that nothing is pending any more
    have hready := settles_lexer { word.opened n with
      rest := rest, column := n + k.length + 1, keyAllowed := false }
      ⟨index + k.length + 1, line, p.taken⟩ (show ts ≠ [] by rintro rfl; simp at hts)
    exact ⟨2, ⟨index + k.length + 1, line, p.taken⟩, ts, Nat.le_refl 2, hts, .empty rfl hfetch
      (.pending (by simp [pending, lexer]) hstale hpending hcolon hready)⟩

/-- A hyphen is one token, after that for the start of its sequence. -/
theorem fetchHyphen_lexer {s : Scan} {p : Past} (q : List Token)
    (hallowed : s.keyAllowed = true) :
    ∃ ts : List Token,
      ts.map Token.kind = opening s.indent s.column .blockSequenceStart ++ [.blockEntry] ∧
      Lexer.fetchBlockEntry? (s.lexer p q) =
        some ({ s.opened s.column with rest := s.rest.drop 1, column := s.column + 1 }.lexer
          { p with index := p.index + 1 } (q ++ ts)) := by
  let m : Mark := ⟨p.index, p.line, s.column⟩
  let hyphen : Token := ⟨.blockEntry, m, ⟨p.index + 1, p.line, s.column + 1⟩⟩
  by_cases hopens : s.indent < s.column
  · refine ⟨[⟨.blockSequenceStart, m, m⟩, hyphen], by simp [opening, hopens, hyphen], ?_⟩
    simp [ fetchBlockEntry?, openBlock?, rollIndent, dropKey?, push, lexer, inFlow, opened, around,
      hopens,
      hallowed, Lexer.mark, Cursor.skip, m, hyphen]
  · refine ⟨[hyphen], by simp [opening, hopens, hyphen], ?_⟩
    simp [ fetchBlockEntry?, openBlock?, rollIndent, dropKey?, push, lexer, inFlow, opened, around,
      hopens,
      hallowed, Lexer.mark, Cursor.skip, m, hyphen]

/-- A hyphen comes before a blank.  Collections may end before it, and a sequence may start with
    it. -/
theorem yields_hyphen {rest : List Char} (h : s.Before ('-' :: ' ' :: rest) n) {k : Nat}
    {indent : Int} {outer : List Int} (hcloses : Closes n s.indent s.outer k indent outer)
    (hk : k ≤ 2) :
    s.Yields (List.replicate k .blockEnd ++
        (opening indent n .blockSequenceStart ++ [.blockEntry]))
      { opened { s with indent, outer } n with
        rest := ' ' :: rest, column := n + 1, keyAllowed := true } := by
  obtain ⟨b, hblanks, hallowed⟩ := h
  have hkinds : (opening indent n .blockSequenceStart).length ≤ 1 := by
    unfold opening
    split <;> simp
  have hsolid := isSolid_hyphen (' ' :: rest)
  refine yields_of_settles (by simp) ?_ ?_ fun p => ?_
  · unfold opening
    split <;> simp
  · have hlength := hblanks.length_le
    simp only [List.length_append, List.length_replicate, List.length_cons, List.length_nil]
      at hlength ⊢
    omega
  · obtain ⟨index, line, ts, hts, hfetch⟩ := fetch?_of_blanks hblanks hsolid hcloses p
    rw [hallowed] at hfetch
    let l : Lexer := Scan.lexer { rest := '-' :: ' ' :: rest, column := n, indent, outer }
      { p with index, line } ts
    have htoken : l.fetchToken? = l.fetchBlockEntry? := by
      have htriple : isTriple '-' ('-' :: ' ' :: rest) = false := by cases rest <;> simp [isTriple]
      simp [Lexer.fetchToken?, l, lexer, htriple, isTriple_of_ne, endsWord, isSpace, isBlank]
    obtain ⟨ts', hts', hhyphen⟩ := fetchHyphen_lexer
      (s := { rest := '-' :: ' ' :: rest, column := n, indent, outer })
      (p := { p with index, line }) ts rfl
    have hready : ts ++ ts' ≠ [] := by
      rintro h
      simp_all
    exact ⟨1, ⟨index + 1, line, p.taken⟩, ts ++ ts', by decide, by simp [hts, hts', opening],
      .empty rfl (hfetch.trans (htoken.trans hhyphen)) (settles_lexer _ _ hready)⟩

/-- Collections end at a column, and further ones at a lesser one. -/
theorem Closes.trans {a b indent indent' indent'' : Int} {outer outer' outer'' : List Int}
    {k k' : Nat} (h : Closes a indent outer k indent' outer')
    (h' : Closes b indent' outer' k' indent'' outer'') (hba : b ≤ a) :
    Closes b indent outer (k + k') indent'' outer'' := by
  induction h with
  | stay _ => rwa [Nat.zero_add]
  | @close _ _ _ _ _ k hlt _ ih =>
    rw [Nat.add_right_comm]
    exact .close (Int.lt_of_le_of_lt hba hlt) (ih h')

/-- Collections that end at a column end at a lesser one, too. -/
theorem Closes.split {a b indent indent' : Int} {outer outer' : List Int} {k : Nat}
    (h : Closes a indent outer k indent' outer') (hab : a ≤ b) :
    ∃ k₁ indent₁ outer₁ k₂, Closes b indent outer k₁ indent₁ outer₁ ∧
      Closes a indent₁ outer₁ k₂ indent' outer' ∧ k₁ + k₂ = k := by
  induction h with
  | @stay indent outer hle =>
    exact ⟨0, indent, outer, 0, .stay (Int.le_trans hle hab), .stay hle, rfl⟩
  | @close indent next indent' outer outer' k hlt hrest ih =>
    by_cases hb : b < indent
    · obtain ⟨k₁, indent₁, outer₁, k₂, h₁, h₂, rfl⟩ := ih
      exact ⟨k₁ + 1, indent₁, outer₁, k₂, .close hb h₁, h₂, Nat.add_right_comm k₁ 1 k₂⟩
    · exact ⟨0, indent, next :: outer, k + 1, .stay (Int.not_lt.1 hb), .close hlt hrest,
        Nat.zero_add _⟩

/-- All collections end with the text. -/
theorem ends_of_blanks {b : Bool} (h : Blanks b s.rest s.column [] 0) {k : Nat}
    (hcloses : Closes (-1) s.indent s.outer k (-1) []) (hk : k ≤ 6) :
    s.Ends (List.replicate k .blockEnd ++ [.streamEnd]) := by
  -- those that are indented end at the column, the others at the end
  obtain ⟨k₁, indent, outer, k₂, hcloses₁, hcloses₂, rfl⟩ :=
    hcloses.split (show -1 ≤ ((0 : Nat) : Int) by decide)
  refine ends_of_settles { rest := [], keyAllowed := false } (by simp) (by simpa using hk)
    fun p => ?_
  have hsolid : IsSolid [] := by rintro d ⟨⟩
  obtain ⟨index, line, ts, hts, hfetch⟩ := fetch?_of_blanks h hsolid hcloses₁ p
  obtain ⟨ts', hts', hunroll⟩ := unrollFrom_of_closes hcloses₂
    { rest := [], keyAllowed := s.keyAllowed || b } { p with index, line } ts
  let l : Lexer := Scan.lexer { rest := [], indent, outer, keyAllowed := s.keyAllowed || b }
    { p with index, line } ts
  have hend : l.fetchToken? = (unrollFrom (-1) outer l).dropKey?.bind fun l =>
      some ({ l with keyAllowed := false }.pushHere .streamEnd) := rfl
  rw [hunroll] at hend
  let t : Token := ⟨.streamEnd, ⟨index, line, 0⟩, ⟨index, line, 0⟩⟩
  have hready := settles_lexer { rest := [], keyAllowed := false } ⟨index, line, p.taken⟩
    (show ts ++ ts' ++ [t] ≠ [] by simp)
  exact ⟨1, ⟨index, line, p.taken⟩, ts ++ ts', t, by decide, by simp [hts, hts'],
    rfl, .empty rfl (hfetch.trans hend) hready⟩

end Scan

end SovdConfig.Yaml
