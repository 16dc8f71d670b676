import SovdConfig.Command.Output
import SovdConfig.Proofs.Definition.Lines
import SovdConfig.Proofs.Text.Lines

namespace SovdConfig

/-!
# Printed documents

Documents that have been printed as one text can be told apart again.  Main definitions:

* `Text.lastCut?` — lines cut at the last mark that has empty lines around it;
* `Documents.cut?` — a printed text cut at the last heading of definitions.

Main statements:

* `Text.lastCut?_eq_some_iff` — the cut is at the last such mark;
* `Documents.cut?_text` — it gives the documents back, whatever is in the configuration.
-/

/-! ### Cutting lines -/

namespace Text

/-- What stands before and after the last of the lines that are the mark and have an empty line
    before and after them. -/
def lastCut? (mark : String) : List String → Option (List String × List String)
  | [] => none
  | line :: rest =>
    match lastCut? mark rest with
    | some (before, after) => some (line :: before, after)
    | none => if line = "" ∧ [mark, ""] <+: rest then some ([], rest.drop 2) else none

variable {mark : String} {lines before after : List String}

/-- A cut comes with the lines that it is made at. -/
theorem eq_of_lastCut? (h : lastCut? mark lines = some (before, after)) :
    lines = before ++ "" :: mark :: "" :: after := by
  induction lines generalizing before with
  | nil => cases h
  | cons line rest ih =>
    rw [lastCut?] at h
    split at h
    · next before' after' hrest =>
      cases h
      rw [ih hrest]
      rfl
    · split at h
      · next hhere =>
        obtain ⟨rfl, tail, rfl⟩ := hhere
        cases h
        rfl
      · cases h

/-- Where there are lines to cut at, no later cut is left out. -/
theorem exists_lastCut? (mark : String) (before after : List String) :
    ∃ before' after', lastCut? mark (before ++ "" :: mark :: "" :: after) = some (before', after') ∧
      before.length ≤ before'.length := by
  induction before with
  | nil =>
    rw [List.nil_append, lastCut?]
    split
    · exact ⟨_, _, rfl, Nat.zero_le _⟩
    · exact ⟨[], after, by simp, Nat.le_refl _⟩
  | cons line before ih =>
    obtain ⟨before', after', hcut, hle⟩ := ih
    rw [List.cons_append, lastCut?, hcut]
    exact ⟨_, _, rfl, by simpa using hle⟩

/-- Lines are cut at the last place where they can be cut. -/
theorem lastCut?_eq_some_iff : lastCut? mark lines = some (before, after) ↔
    lines = before ++ "" :: mark :: "" :: after ∧
      ∀ before' after', lines = before' ++ "" :: mark :: "" :: after' →
        before'.length ≤ before.length := by
  constructor
  · intro h
    refine ⟨eq_of_lastCut? h, ?_⟩
    rintro before' after' rfl
    obtain ⟨b, a, hcut, hle⟩ := exists_lastCut? mark before' after'
    rw [h] at hcut
    cases hcut
    exact hle
  · rintro ⟨rfl, hlast⟩
    obtain ⟨b, a, hcut, hle⟩ := exists_lastCut? mark before after
    -- the cut that is made is at the given place as it is neither before nor after it
    have hlines := eq_of_lastCut? hcut
    obtain ⟨rfl, hrest⟩ := List.append_inj hlines (Nat.le_antisymm hle (hlast b a hlines))
    rw [hcut]
    simp_all

/-- If no mark follows, lines are cut at the given one. -/
theorem lastCut?_append (hmark : mark ≠ "") (h : mark ∉ after) :
    lastCut? mark (before ++ "" :: mark :: "" :: after) = some (before, after) := by
  refine lastCut?_eq_some_iff.2 ⟨rfl, fun before' after' heq => ?_⟩
  by_contra hlong
  -- a later mark would stand among the lines that follow
  have hlater : (before ++ "" :: mark :: "" :: after)[before'.length + 1]? = some mark := by
    rw [heq, List.getElem?_append_right (by omega)]
    simp
  obtain ⟨k, hk⟩ : ∃ k, before'.length + 1 = before.length + (k + 2) :=
    ⟨before'.length - before.length - 1, by omega⟩
  rw [hk, List.getElem?_append_right (by omega), Nat.add_sub_cancel_left] at hlater
  have hmem : mark ∈ "" :: after := List.mem_of_getElem? hlater
  rcases List.mem_cons.1 hmem with hempty | hafter
  · exact hmark hempty
  · exact h hafter

/-! ### Lines of texts -/

/-- The lines of two texts with a line break between them. -/
theorem linesOf_append (s t : String) : linesOf (s ++ "\n" ++ t) = linesOf s ++ linesOf t := by
  rw [linesOf, linesOf, linesOf, ← List.map_append, ← List.splitOn_append_cons_self]
  simp

/-- Joining the lines of a text gives the text back. -/
theorem intercalate_linesOf (text : String) : "\n".intercalate (linesOf text) = text := by
  have hlines : (linesOf text).map String.toList = text.toList.splitOn '\n' := by
    simp [linesOf, Function.comp_def]
  rw [String.ext_iff, String.toList_intercalate, hlines]
  exact List.intercalate_splitOn '\n'

end Text

/-! ### Documents -/

namespace Documents

open Text (linesOf lastCut?)

/-- The configuration and the definitions in a printed text. -/
def cut? (text : String) : Option (String × String) :=
  (lastCut? definitionsHeading (linesOf text)).map fun (before, after) =>
    ("\n".intercalate before, "\n".intercalate after.dropLast)

/-- The lines of printed documents. -/
theorem linesOf_text {d : Documents} {definitions : String}
    (h : d.definitions = some definitions) :
    linesOf d.text = linesOf d.configuration ++
      "" :: definitionsHeading :: "" :: (linesOf definitions ++ [""]) := by
  have hheading : Text.IsOneLine definitionsHeading := by decide +kernel
  have htext : d.text = d.configuration ++ "\n" ++
      ("" ++ "\n" ++ (definitionsHeading ++ "\n" ++
        ("" ++ "\n" ++ (definitions ++ "\n" ++ "")))) := by
    rw [String.ext_iff]
    simp [text, h]
  rw [htext]
  simp only [Text.linesOf_append, Text.linesOf_of_isOneLine hheading]
  rfl

/-- Printed documents are found again: the heading counts where it stands last, also if it stands in
    the configuration. -/
theorem cut?_text {d : Documents} {definitions : String} (h : d.definitions = some definitions)
    (hheading : definitionsHeading ∉ linesOf definitions) :
    cut? d.text = some (d.configuration, definitions) := by
  have hafter : definitionsHeading ∉ linesOf definitions ++ [""] := by
    simpa [hheading] using (by decide : definitionsHeading ≠ "")
  rw [cut?, linesOf_text h, Text.lastCut?_append (by decide) hafter]
  simp [Text.intercalate_linesOf]

end Documents

/-- The heading is no line of the definitions that are generated. -/
theorem Definition.heading_not_mem_linesOf (includeExamples : Bool) :
    Documents.definitionsHeading ∉ Text.linesOf (document includeExamples) := by
  have hentries : ∀ e ∈ standard ++ examples, e.IsPrintable := by decide +kernel
  have hcommented : ∀ entries ∈ (if includeExamples then some examples else none),
      ∀ e ∈ entries, e.IsPrintable := by
    intro entries h e he
    split at h
    · cases h
      exact hentries e (List.mem_append_right _ he)
    · cases h
  have honeLine : ∀ {line : String}, Text.IsPrintable line → Text.IsOneLine line := by
    intro line h hbreak
    exact absurd (h _ hbreak).1 (by decide)
  -- an entry's lines are indented, and the heading is not
  have hindented : ∀ e mark, Documents.definitionsHeading ∉ lines mark e := by
    intro e mark hmem
    obtain ⟨text, -, htext⟩ := List.mem_map.1 hmem
    have hhead := congrArg (fun line => line.toList.head?) htext
    simp [entryLine, Documents.definitionsHeading] at hhead
  rw [document, Text.linesOf_unlines fun line hline => honeLine
    (isPrintable_documentLines (fun e he => hentries e (List.mem_append_left _ he)) hcommented
      line hline)]
  intro hmem
  rcases List.mem_append.1 hmem with hmem | hmem
  · rcases mem_documentLines hmem with hmem | hmem | ⟨e, -, hmem⟩ | ⟨-, -, e, -, hmem⟩
    · exact absurd hmem (by decide)
    · exact absurd hmem (by decide)
    · exact hindented e _ hmem
    · exact hindented e _ hmem
  · exact absurd hmem (by decide)

end SovdConfig
