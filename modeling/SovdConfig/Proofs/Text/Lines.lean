import SovdConfig.Ecu.Document

namespace SovdConfig.Text

/-!
# Splitting texts

Texts are taken apart again at line breaks and at longer separators.  Main definitions:

* `IsOneLine`, `linesOf` — texts without a line break, and the texts between line breaks;
* `pieces`, `piecesOf` — the texts between all occurrences of a separator, leftmost first.

Main statements:

* `intercalate_pieces` — joining the pieces gives the text back, so nothing is lost;
* `linesOf_unlines` — the lines of a text are found again;
* `pieces_line`, `pieces_break` — a separator that starts with a line break is only found where a
  line ends.
-/

/-- Joining adds nothing but what is in the separator. -/
theorem mem_intercalate {α : Type} {sep : List α} {parts : List (List α)} {a : α}
    (h : a ∈ sep.intercalate parts) : a ∈ sep ∨ ∃ part ∈ parts, a ∈ part := by
  induction parts with
  | nil => simp at h
  | cons part parts ih =>
    rcases parts with - | ⟨next, parts⟩
    · exact .inr ⟨part, by simp, by simpa using h⟩
    · rw [List.intercalate_cons_cons, List.mem_append, List.mem_append] at h
      rcases h with (h | h) | h
      · exact .inr ⟨part, by simp, h⟩
      · exact .inl h
      · rcases ih h with h | ⟨other, hother, h⟩
        · exact .inl h
        · exact .inr ⟨other, List.mem_cons_of_mem _ hother, h⟩

/-! ### Lines -/

/-- Whether a text has no line break. -/
def IsOneLine (text : String) : Prop := '\n' ∉ text.toList

instance (text : String) : Decidable (IsOneLine text) := by
  unfold IsOneLine; infer_instance

/-- Two texts without line breaks have none between them. -/
@[simp] theorem isOneLine_append {s t : String} :
    IsOneLine (s ++ t) ↔ IsOneLine s ∧ IsOneLine t := by
  simp [IsOneLine]

/-- The texts between line breaks. -/
def linesOf (text : String) : List String := (text.toList.splitOn '\n').map String.ofList

/-- A text without a line break is its only line. -/
theorem linesOf_of_isOneLine {text : String} (h : IsOneLine text) : linesOf text = [text] := by
  rw [linesOf, List.splitOn_eq_singleton h, List.map_singleton, String.ofList_toList]

/-- The lines of texts are those of each, and nothing stands after the last line break. -/
theorem linesOf_unlines_eq (texts : List String) :
    linesOf (unlines texts) = texts.flatMap linesOf ++ [""] := by
  unfold linesOf
  rw [toList_unlines]
  induction texts with
  | nil => rfl
  | cons text texts ih =>
    simp only [List.map_cons, List.flatMap_cons, List.append_assoc, List.singleton_append]
    rw [List.splitOn_append_cons_self, List.map_append, ih]

/-- The lines of a text are found again, and nothing stands after the last line break. -/
theorem linesOf_unlines {lines : List String} (h : ∀ line ∈ lines, IsOneLine line) :
    linesOf (unlines lines) = lines ++ [""] := by
  have heach : lines.map linesOf = lines.map fun line => [line] :=
    List.map_congr_left fun line hline => linesOf_of_isOneLine (h line hline)
  rw [linesOf_unlines_eq, List.flatMap_def, heach, ← List.flatMap_def, List.flatMap_singleton']

/-! ### Pieces -/

/-- The pieces of a text between the occurrences of a separator: of two occurrences that overlap,
    the first counts. -/
def pieces (sep : List Char) : List Char → List (List Char)
  | [] => [[]]
  | c :: cs =>
    if sep <+: c :: cs then [] :: pieces sep (cs.drop (sep.length - 1))
    else (pieces sep cs).modifyHead (c :: ·)
termination_by cs => cs.length
decreasing_by all_goals simp; try omega

/-- The pieces of a text, as texts. -/
def piecesOf (sep text : String) : List String :=
  (pieces sep.toList text.toList).map String.ofList

/-- There is always a piece. -/
theorem pieces_ne_nil (sep cs : List Char) : pieces sep cs ≠ [] := by
  fun_induction pieces sep cs with
  | case1 => simp
  | case2 => simp
  | case3 c cs h ih => simpa using ih

/-- Joining the pieces gives the text back. -/
theorem intercalate_pieces {sep : List Char} (hsep : sep ≠ []) (cs : List Char) :
    sep.intercalate (pieces sep cs) = cs := by
  fun_induction pieces sep cs with
  | case1 => simp
  | case2 c cs h ih =>
    obtain ⟨d, tail, rfl⟩ := List.exists_cons_of_ne_nil hsep
    obtain ⟨rfl, rest, rfl⟩ := List.cons_prefix_cons.1 h
    simp only [List.length_cons, Nat.add_sub_cancel, List.drop_left] at ih ⊢
    rw [List.intercalate_cons_of_ne_nil (pieces_ne_nil _ _), ih]
    simp
  | case3 c cs h ih =>
    obtain ⟨p, ps, hps⟩ := List.exists_cons_of_ne_nil (pieces_ne_nil sep cs)
    rw [hps] at ih ⊢
    rw [List.modifyHead_cons, List.intercalate_cons_cons_left, ih]

/-- A separator at the start closes an empty piece. -/
theorem pieces_append {sep : List Char} (hsep : sep ≠ []) (rest : List Char) :
    pieces sep (sep ++ rest) = [] :: pieces sep rest := by
  obtain ⟨c, tail, rfl⟩ := List.exists_cons_of_ne_nil hsep
  rw [List.cons_append, pieces, if_pos (by simp)]
  simp

/-- Where no separator starts, a character goes into the piece. -/
theorem pieces_cons {sep : List Char} {c : Char} {cs : List Char} (h : ¬ sep <+: c :: cs) :
    pieces sep (c :: cs) = (pieces sep cs).modifyHead (c :: ·) := by
  rw [pieces, if_neg h]

/-- No separator that starts with a line break starts within a line. -/
theorem pieces_line {sep : List Char} (hsep : sep.head? = some '\n') {line : List Char}
    (h : '\n' ∉ line) (rest : List Char) :
    pieces sep (line ++ rest) = (pieces sep rest).modifyHead (line ++ ·) := by
  obtain ⟨tail, rfl⟩ := List.head?_eq_some_iff.1 hsep
  -- no character of the line is the separator's first one
  induction line with
  | nil =>
    rw [List.nil_append]
    cases pieces ('\n' :: tail) rest <;> rfl
  | cons c line ih =>
    obtain ⟨hc, hline⟩ : '\n' ≠ c ∧ '\n' ∉ line := by simpa using h
    rw [List.cons_append, pieces_cons (by simp [hc]), ih hline, List.modifyHead_modifyHead]
    rfl

/-- A text that starts with a line and its line break starts with no other line. -/
theorem eq_of_line_start {line other rest : List Char} (hline : '\n' ∉ line)
    (hother : '\n' ∉ other) (h : line ++ ['\n'] <+: other ++ '\n' :: rest) : line = other := by
  obtain ⟨tail, htail⟩ := h
  have hsplit := congrArg (List.splitOn '\n') htail
  rw [List.append_assoc, List.singleton_append, List.splitOn_append_cons_self_of_not_mem hline,
    List.splitOn_append_cons_self_of_not_mem hother] at hsplit
  exact (List.cons.inj hsplit).1

/-- A mark on a line of its own, with the line breaks around it, does not start within lines that
    differ from the mark, unless what follows them starts with it. -/
theorem pieces_lines {mark : List Char} (hmark : '\n' ∉ mark) {lines : List (List Char)}
    (h : ∀ line ∈ lines, '\n' ∉ line ∧ line ≠ mark) (rest : List Char)
    (hrest : ¬ mark ++ ['\n'] <+: rest) :
    pieces ('\n' :: (mark ++ ['\n'])) (lines.flatMap (· ++ ['\n']) ++ rest) =
      (pieces ('\n' :: (mark ++ ['\n'])) rest).modifyHead (lines.flatMap (· ++ ['\n']) ++ ·) := by
  induction lines with
  | nil =>
    rw [List.flatMap_nil, List.nil_append]
    cases pieces ('\n' :: (mark ++ ['\n'])) rest <;> rfl
  | cons line lines ih =>
    have ih := ih fun l hl => h l (by simp [hl])
    -- a separator can only start at the break of a line, and the next line is not the mark
    have hbreak : ¬ mark ++ ['\n'] <+: lines.flatMap (· ++ ['\n']) ++ rest := by
      intro hprefix
      rcases lines with - | ⟨next, lines⟩
      · exact hrest (by simpa using hprefix)
      · obtain ⟨hnext, hne⟩ := h next (by simp)
        simp only [List.flatMap_cons, List.append_assoc, List.singleton_append] at hprefix
        exact hne (eq_of_line_start hmark hnext hprefix).symm
    simp only [List.flatMap_cons, List.append_assoc, List.cons_append, List.nil_append]
    rw [pieces_line rfl (h line (by simp)).1, pieces_cons (by simpa using hbreak), ih,
      List.modifyHead_modifyHead, List.modifyHead_modifyHead]
    simp [Function.comp_def]

/-- The last of several blocks of lines is the last piece. -/
theorem pieces_block {mark : List Char} (hmark : '\n' ∉ mark) {lines : List (List Char)}
    (h : ∀ line ∈ lines, '\n' ∉ line ∧ line ≠ mark) :
    pieces ('\n' :: (mark ++ ['\n'])) (lines.flatMap (· ++ ['\n'])) =
      [lines.flatMap (· ++ ['\n'])] := by
  have hpieces := pieces_lines hmark h [] (by simp)
  simpa [pieces] using hpieces

/-- Blocks of lines are found again between the marks, if none of them holds the mark. -/
theorem pieces_intercalate {mark : List Char} (hmark : '\n' ∉ mark) (hne : mark ≠ [])
    {blocks : List (List (List Char))} (hblocks : blocks ≠ [])
    (h : ∀ lines ∈ blocks, ∀ line ∈ lines, '\n' ∉ line ∧ line ≠ mark) :
    pieces ('\n' :: (mark ++ ['\n']))
      (('\n' :: (mark ++ ['\n'])).intercalate (blocks.map (·.flatMap (· ++ ['\n'])))) =
        blocks.map (·.flatMap (· ++ ['\n'])) := by
  induction blocks with
  | nil => exact absurd rfl hblocks
  | cons lines blocks ih =>
    have hlines := h lines (by simp)
    rcases blocks with - | ⟨next, blocks⟩
    · simpa using pieces_block hmark hlines
    · have ih := ih (by simp) fun b hb => h b (by simp [hb])
      simp only [List.map_cons] at ih ⊢
      -- what follows a block starts with a line break, and the mark does not
      have hstart : ¬ mark ++ ['\n'] <+: ('\n' :: (mark ++ ['\n'])) ++
          ('\n' :: (mark ++ ['\n'])).intercalate
            (next.flatMap (· ++ ['\n']) :: blocks.map (·.flatMap (· ++ ['\n']))) := by
        obtain ⟨c, tail, rfl⟩ := List.exists_cons_of_ne_nil hne
        have hc : c ≠ '\n' := fun heq => hmark (by simp [heq])
        simp [hc]
      rw [List.intercalate_cons_cons, List.append_assoc, pieces_lines hmark hlines _ hstart,
        pieces_append (by simp), ih]
      simp

end SovdConfig.Text
