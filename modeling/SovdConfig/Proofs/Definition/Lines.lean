import SovdConfig.Proofs.Definition.Entry
import SovdConfig.Proofs.Text.Lines
import SovdConfig.Proofs.Yaml.Gaps

namespace SovdConfig

/-!
# The lines of definitions documents

Main definitions:

* `IsPrintable`, `Definition.IsPrintable` — printable texts, and entries whose texts are printable;
* `Definition.IsRemark` — empty lines and comments.

Main statements:

* `Definition.isPrintable_documentLines` — all lines are printable;
* `Definition.isRemark_tailLines` — commented entries are remarks;
* `Definition.exists_blanks_of_isRemark` — remarks are a gap.
-/

open Yaml

/-! ### Printable texts -/

namespace Text

/-- Whether a text has printable characters of seven bits only. -/
def IsPrintable (text : String) : Prop := ∀ c ∈ text.toList, ' ' ≤ c ∧ c ≤ '~'

instance (text : String) : Decidable (IsPrintable text) := by
  unfold IsPrintable; infer_instance

/-- Two texts are printable if they are so one after the other. -/
@[simp] theorem isPrintable_append {s t : String} :
    IsPrintable (s ++ t) ↔ IsPrintable s ∧ IsPrintable t := by
  simp only [IsPrintable, String.toList_append, List.forall_mem_append]

/-- Letters and digits are printable. -/
theorem printable_of_isAlphanum {c : Char} (h : c.isAlphanum = true) : ' ' ≤ c ∧ c ≤ '~' := by
  obtain ⟨hleast, hgreatest⟩ := code_of_isAlphanum h
  simp only [Char.le_def, UInt32.le_iff_toNat_le]
  exact ⟨Nat.le_trans (by decide) hleast, Nat.le_trans hgreatest (by decide)⟩

/-- The text of a double is printable. -/
theorem isPrintable_double (x : Binary64) : IsPrintable (x.text .plain) := by
  have hmarks : ∀ c ∈ ['.', 'e', '-', '+', 'N', 'a', 'i', 'n', 'f'], ' ' ≤ c ∧ c ≤ '~' := by decide
  intro c hc
  rcases Binary64.mem_text hc with hc | hc
  · exact printable_of_isAlphanum (by simp [Char.isAlphanum, hc])
  · exact hmarks c hc

end Text

/-- A label is printable. -/
theorem IsLabel.isPrintable {text : String} (h : IsLabel text) : Text.IsPrintable text := by
  intro c hc
  have hwords : [' '].intercalate (text.toList.splitOn ' ') = text.toList :=
    List.intercalate_splitOn ' '
  rw [← hwords] at hc
  rcases Text.mem_intercalate hc with hc | ⟨w, hw, hc⟩
  · obtain rfl := List.mem_singleton.1 hc
    decide
  · rcases (h.words w hw).2 c hc with halphanum | rfl | rfl
    · exact Text.printable_of_isAlphanum halphanum
    · decide
    · decide

/-- Whether the unit of a conversion is printable. -/
def ValueLayout.IsPrintable : ValueLayout → Prop
  | .length _ => True
  | .scaled c => Text.IsPrintable c.unit

instance : (layout : ValueLayout) → Decidable layout.IsPrintable
  | .length _ => inferInstanceAs (Decidable True)
  | .scaled c => inferInstanceAs (Decidable (Text.IsPrintable c.unit))

/-- Whether the texts of an entry are printable. -/
structure Definition.IsPrintable (e : Definition) : Prop where
  name : Text.IsPrintable e.name
  description : Text.IsPrintable e.description
  layout : e.layout.IsPrintable

instance (e : Definition) : Decidable e.IsPrintable :=
  decidable_of_iff (Text.IsPrintable e.name ∧ Text.IsPrintable e.description ∧ e.layout.IsPrintable)
    ⟨fun ⟨h, h', h''⟩ => ⟨h, h', h''⟩, fun ⟨h, h', h''⟩ => ⟨h, h', h''⟩⟩

namespace Definition

/-- The lines that say how large a value is are printable. -/
theorem isPrintable_layoutLines {layout : ValueLayout} (h : layout.IsPrintable) :
    ∀ line ∈ layoutLines layout, Text.IsPrintable line := by
  have hwords : ∀ text ∈ ["  length: ", "  scaling:", "    factor: ", "    offset: ", "    unit: "],
      Text.IsPrintable text := by decide
  cases layout with
  | length n =>
    have hnumber : Text.IsPrintable (decimalText n.toNat) :=
      fun _ hc => Text.printable_of_isAlphanum (isAlphanum_of_mem_decimalText hc)
    simp [layoutLines, hwords, hnumber]
  | scaled c =>
    have hunit : Text.IsPrintable c.unit := h
    simp [layoutLines, hwords, Text.isPrintable_double, hunit]

/-- After the indentation of the list and the mark, the lines of an entry are printable. -/
theorem exists_entryLine {e : Definition} (h : e.IsPrintable) {mark line : String}
    (hline : line ∈ e.lines mark) : ∃ text, line = entryLine mark text ∧ Text.IsPrintable text := by
  have haccess : Text.IsPrintable e.access.name := by
    cases e.access <;> decide
  have htype : Text.IsPrintable e.dataType.name := by
    cases e.dataType <;> decide
  have hdid : Text.IsPrintable (hexText 4 e.did.toNat) :=
    fun _ hc => Text.printable_of_isAlphanum (isAlphanum_of_mem_hexText hc)
  have hwords : ∀ text ∈ ["- did: ", "  name: ", "  description: ", "  access: ", "  data_type: "],
      Text.IsPrintable text := by decide
  obtain ⟨text, htext, rfl⟩ := List.mem_map.1 hline
  refine ⟨text, rfl, ?_⟩
  rcases List.mem_append.1 htext with htext | htext
  · simp only [List.mem_cons, List.not_mem_nil, or_false] at htext
    rcases htext with rfl | rfl | rfl | rfl | rfl <;>
      simp [haccess, htype, hdid, hwords, h.name, h.description]
  · exact isPrintable_layoutLines h.layout text htext

/-- The lines of an entry are printable. -/
theorem isPrintable_lines {e : Definition} (h : e.IsPrintable) {mark : String}
    (hmark : Text.IsPrintable mark) : ∀ line ∈ e.lines mark, Text.IsPrintable line := by
  intro line hline
  obtain ⟨text, rfl, htext⟩ := exists_entryLine h hline
  have hindentation : Text.IsPrintable "  " := by decide
  simp [entryLine, hindentation, hmark, htext]

/-! ### Empty lines and comments -/

/-- Whether a line is empty or a comment. -/
def IsRemark (line : String) : Prop :=
  line = "" ∨
    ((line.toList.dropWhile (· = ' ')).head? = some '#' ∧ ∀ c ∈ line.toList, isBreak c = false)

instance (line : String) : Decidable (IsRemark line) := by
  unfold IsRemark; infer_instance

/-- Empty lines and comments are a gap. -/
theorem exists_blanks_of_isRemark {remarks : List String} (h : ∀ line ∈ remarks, IsRemark line)
    (rest : List Char) : ∃ b, Blanks b ((unlines remarks).toList ++ rest) 0 rest 0 := by
  induction remarks with
  | nil => exact ⟨false, .here⟩
  | cons line remarks ih =>
    obtain ⟨b, hrest⟩ := ih fun l hl => h l (by simp [hl])
    have hline : (unlines (line :: remarks)).toList ++ rest =
        line.toList ++ '\n' :: ((unlines remarks).toList ++ rest) := by
      simp [toList_unlines]
    rw [hline]
    rcases h line (by simp) with rfl | ⟨hmark, hbreaks⟩
    · exact ⟨true, .newline hrest⟩
    · obtain ⟨note, hnote⟩ := List.head?_eq_some_iff.1 hmark
      have hblanks : line.toList.takeWhile (· = ' ') =
          List.replicate (line.toList.takeWhile (· = ' ')).length ' ' :=
        List.eq_replicate_iff.2 ⟨rfl, fun c hc => by
          simpa using List.all_eq_true.1 List.all_takeWhile c hc⟩
      have htext : line.toList = List.replicate (line.toList.takeWhile (· = ' ')).length ' ' ++
          '#' :: note := by
        rw [← hblanks, ← hnote, List.takeWhile_append_dropWhile]
      rw [htext, List.append_assoc]
      exact ⟨true, .spaces _ (.comment (fun c hc => hbreaks c (by rw [htext]; simp [hc])) hrest)⟩

/-- Printable characters break no line. -/
theorem isBreak_of_printable {c : Char} (h : ' ' ≤ c ∧ c ≤ '~') : isBreak c = false := by
  rw [Bool.eq_false_iff]
  intro hc
  simp only [isBreak, Bool.or_eq_true, decide_eq_true_eq] at hc
  rcases hc with (((rfl | rfl) | rfl) | rfl) | rfl <;> exact absurd h (by decide)

/-- A printable line after a comment mark is a comment. -/
theorem isRemark_entryLine {text : String} (h : Text.IsPrintable text) :
    IsRemark (entryLine "# " text) := by
  have hmark : Text.IsPrintable "  # " := by decide
  have hline : Text.IsPrintable (entryLine "# " text) := by simp [entryLine, h, hmark]
  exact .inr ⟨by simp [entryLine], fun c hc => isBreak_of_printable (hline c hc)⟩

/-- The lines after the entries, all of them empty or comments. -/
def tailLines (commented : Option (List Definition)) : List String :=
  match commented with
  | some entries => exampleIntroLines ++ entries.flatMap fun e => "" :: lines "# " e
  | none => []

/-- No line after the entries is part of the document. -/
theorem isRemark_tailLines {commented : Option (List Definition)}
    (h : ∀ entries ∈ commented, ∀ e ∈ entries, e.IsPrintable) :
    ∀ line ∈ tailLines commented, IsRemark line := by
  intro line hline
  cases commented with
  | none => simp [tailLines] at hline
  | some entries =>
    have hintro : ∀ line ∈ exampleIntroLines, IsRemark line := by decide
    rcases List.mem_append.1 hline with hline | hline
    · exact hintro line hline
    · obtain ⟨e, he, hline⟩ := List.mem_flatMap.1 hline
      rcases List.mem_cons.1 hline with rfl | hline
      · exact .inl rfl
      · obtain ⟨text, rfl, htext⟩ := exists_entryLine (h entries rfl e he) hline
        exact isRemark_entryLine htext

/-! ### Documents -/

/-- The texts of a readable entry are printable. -/
theorem IsReadable.isPrintable {e : Definition} (h : e.IsReadable) : e.IsPrintable where
  name := h.name.isPrintable
  description := h.description.isPrintable
  layout := by
    have hlayout := h.layout
    cases hcases : e.layout with
    | length n => trivial
    | scaled c =>
      rw [hcases] at hlayout
      exact hlayout.unit.isPrintable

/-- A line of a document is one before entries, is empty, or is one of an entry. -/
theorem mem_documentLines {active : List Definition} {commented : Option (List Definition)}
    {line : String} (h : line ∈ documentLines active commented) :
    line ∈ introLines ++ exampleIntroLines ∨ line = "" ∨ (∃ e ∈ active, line ∈ lines "" e) ∨
      ∃ entries ∈ commented, ∃ e ∈ entries, line ∈ lines "# " e := by
  rcases List.mem_append.1 h with h | h
  · rcases List.mem_append.1 h with h | h
    · exact .inl (List.mem_append_left _ h)
    · rcases Text.mem_intercalate h with h | ⟨part, hpart, h⟩
      · exact .inr (.inl (List.mem_singleton.1 h))
      · obtain ⟨e, he, rfl⟩ := List.mem_map.1 hpart
        exact .inr (.inr (.inl ⟨e, he, h⟩))
  · cases commented with
    | none => cases h
    | some entries =>
      rcases List.mem_append.1 h with h | h
      · exact .inl (List.mem_append_right _ h)
      · obtain ⟨e, he, h⟩ := List.mem_flatMap.1 h
        rcases List.mem_cons.1 h with h | h
        · exact .inr (.inl h)
        · exact .inr (.inr (.inr ⟨entries, rfl, e, he, h⟩))

/-- The lines of a document are printable. -/
theorem isPrintable_documentLines {active : List Definition} (h : ∀ e ∈ active, e.IsPrintable)
    {commented : Option (List Definition)}
    (hcommented : ∀ entries ∈ commented, ∀ e ∈ entries, e.IsPrintable) :
    ∀ line ∈ documentLines active commented, Text.IsPrintable line := by
  have hintro : ∀ line ∈ introLines ++ exampleIntroLines, Text.IsPrintable line := by decide
  intro line hline
  rcases mem_documentLines hline with
    hline | rfl | ⟨e, he, hline⟩ | ⟨entries, hentries, e, he, hline⟩
  · exact hintro line hline
  · decide
  · exact isPrintable_lines (h e he) (by decide) line hline
  · exact isPrintable_lines (hcommented entries hentries e he) (by decide) line hline

/-- The characters of a document may stand in a text. -/
theorem all_isPrintable_unlines {lines : List String}
    (h : ∀ line ∈ lines, Text.IsPrintable line) :
    (unlines lines).toList.all Document.isPrintable = true := by
  rw [List.all_eq_true]
  intro c hc
  rw [toList_unlines] at hc
  obtain ⟨cs, hcs, hc⟩ := List.mem_flatMap.1 hc
  obtain ⟨line, hline, rfl⟩ := List.mem_map.1 hcs
  rcases List.mem_append.1 hc with hc | hc
  · simp [Document.isPrintable, h line hline c hc]
  · obtain rfl := List.mem_singleton.1 hc
    decide

end Definition

end SovdConfig
