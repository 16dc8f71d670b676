import SovdConfig.Path
import SovdConfig.Proofs.Text.Lossy

namespace SovdConfig.Path

/-!
# The path of the definitions

Main definition: `endName`, what stands behind the last slash of a path.  Main statements:

* `split_append_slash`, `endName_append` — segments of paths that are put together;
* `decodeLossy_append_definitionsEnding` — the ending of definitions is found again in any bytes;
* `endName_definitions_ne` — definitions and their configuration never have the same name.
-/

/-! ### Segments -/

/-- There is always a segment. -/
theorem split_ne_nil (bytes : Bytes) : split bytes ≠ [] := by
  cases bytes with
  | nil => simp [split]
  | cons b rest =>
    simp only [split]
    split
    · simp
    · split <;> simp

/-- Bytes without a slash are one segment. -/
theorem split_of_not_mem {bytes : Bytes} (h : slash ∉ bytes) : split bytes = [bytes] := by
  induction bytes with
  | nil => rfl
  | cons b rest ih =>
    obtain ⟨hb, hrest⟩ : slash ≠ b ∧ slash ∉ rest := by simpa using h
    simp [split, ih hrest, hb.symm]

/-- A slash parts the segments before it from those behind it. -/
theorem split_append_slash (a b : Bytes) : split (a ++ slash :: b) = split a ++ split b := by
  induction a with
  | nil =>
    obtain ⟨seg, segs, hseg⟩ := List.exists_cons_of_ne_nil (split_ne_nil b)
    simp [split, hseg]
  | cons x a ih =>
    obtain ⟨seg, segs, hseg⟩ := List.exists_cons_of_ne_nil (split_ne_nil a)
    rw [hseg] at ih
    by_cases hx : x = slash
    · simp [split, ih, hseg, hx]
    · simp [split, ih, hseg, hx]

/-- What stands behind the last slash. -/
def endOf (bytes : Bytes) : Bytes := (split bytes).getLastD []

/-- Without a slash it is all there is. -/
theorem endOf_of_not_mem {bytes : Bytes} (h : slash ∉ bytes) : endOf bytes = bytes := by
  rw [endOf, split_of_not_mem h]
  rfl

/-- Behind a slash it is what has none. -/
theorem endOf_append_slash (a : Bytes) {b : Bytes} (h : slash ∉ b) :
    endOf (a ++ slash :: b) = b := by
  rw [endOf, split_append_slash, split_of_not_mem h]
  simp

/-- Bytes are one segment, or end with one behind a slash. -/
theorem endOf_cases (bytes : Bytes) :
    slash ∉ bytes ∨ slash ∉ endOf bytes ∧ ∃ before, bytes = before ++ slash :: endOf bytes := by
  induction bytes with
  | nil => exact .inl (by simp)
  | cons b rest ih =>
    rcases ih with hrest | ⟨hend, before, hrest⟩
    · by_cases hb : b = slash
      · have hlast : endOf (b :: rest) = rest := by
          rw [hb]
          exact endOf_append_slash [] hrest
        exact .inr ⟨by rwa [hlast], [], by rw [hlast, hb]; rfl⟩
      · exact .inl (by simpa [Ne.symm hb] using hrest)
    · have hlast : endOf (b :: rest) = endOf rest := by
        rw [hrest, ← List.cons_append, endOf_append_slash _ hend, endOf_append_slash _ hend]
      exact .inr ⟨by rwa [hlast], b :: before, by rw [hlast, List.cons_append, ← hrest]⟩

/-- Bytes without a slash go to the last segment. -/
theorem endOf_append (a : Bytes) {b : Bytes} (h : slash ∉ b) : endOf (a ++ b) = endOf a ++ b := by
  rcases endOf_cases a with ha | ⟨hend, before, ha⟩
  · have hall : slash ∉ a ++ b := by simp [ha, h]
    rw [endOf_of_not_mem hall, endOf_of_not_mem ha]
  · have hall : slash ∉ endOf a ++ b := by simp [hend, h]
    have htext : a ++ b = before ++ slash :: (endOf a ++ b) := by
      rw [← List.cons_append, ← List.append_assoc, ← ha]
    rw [htext, endOf_append_slash before hall]

/-- Bytes end with their last segment. -/
theorem endOf_suffix (bytes : Bytes) : endOf bytes <:+ bytes := by
  rcases endOf_cases bytes with h | ⟨-, before, h⟩
  · simp only [endOf_of_not_mem h, List.suffix_refl]
  · exact ⟨before ++ [slash], by rw [List.append_assoc, List.singleton_append, ← h]⟩

/-- It is the last segment. -/
theorem getLast?_split (bytes : Bytes) : (split bytes).getLast? = some (endOf bytes) := by
  rw [endOf, List.getLastD_eq_getLast?, List.getLast?_eq_some_getLast (split_ne_nil bytes)]
  rfl

/-! ### Endings -/

/-- The bytes of the ending of definitions. -/
def endingBytes : Bytes := Text.encodeUtf8 definitionsEnding

/-- The ending has no slash. -/
theorem slash_notMem_endingBytes : slash ∉ endingBytes := by decide

/-- The ending is found again behind any bytes. -/
theorem decodeLossy_append_endingBytes (bytes : Bytes) :
    Text.decodeLossy (bytes ++ endingBytes) = Text.decodeLossy bytes ++ definitionsEnding := by
  have hread := Text.decodeLossy_append_encodeUtf8 (c := '-') (by decide) bytes "dids.yaml".toList
  have hending : String.ofList ('-' :: "dids.yaml".toList) = definitionsEnding := by decide
  rwa [hending] at hread

/-- No bytes are named as their own text with the ending of definitions: taken off as often as it
    is there, the ending would have to be there once more. -/
theorem endOf_ne_endOf_text (bytes : Bytes) :
    endOf bytes ≠ endOf (Text.encodeUtf8 (Text.decodeLossy bytes)) ++ endingBytes := by
  induction hlength : bytes.length using Nat.strongRecOn generalizing bytes with
  | _ n ih =>
    intro heq
    obtain ⟨before, hbytes⟩ : endingBytes <:+ bytes :=
      (heq ▸ List.suffix_append _ endingBytes).trans (endOf_suffix bytes)
    have hshorter : before.length < n := by
      rw [← hlength, ← hbytes, List.length_append]
      have : 0 < endingBytes.length := by decide
      omega
    rw [← hbytes, decodeLossy_append_endingBytes, Text.encodeUtf8_append,
      endOf_append _ slash_notMem_endingBytes] at heq
    have hending : Text.encodeUtf8 definitionsEnding = endingBytes := rfl
    rw [hending, endOf_append _ slash_notMem_endingBytes] at heq
    exact ih before.length hshorter before rfl (List.append_cancel_right heq)

/-- Whatever stands before it, the ending of definitions is not that of configurations. -/
theorem dropEnding_append_definitionsEnding (cs : List Char) :
    dropEnding configurationEnding.toList (cs ++ definitionsEnding.toList) =
      cs ++ definitionsEnding.toList := by
  have hends : ¬ configurationEnding.toList <:+ cs ++ definitionsEnding.toList := by
    intro h
    -- of two endings of one text the shorter one ends the longer one
    have hshort := List.suffix_of_suffix_length_le h
      (List.suffix_append cs definitionsEnding.toList) (by decide)
    revert hshort; decide
  rw [dropEnding, if_neg (by simpa using hends)]

/-- Definitions never have the name of their configuration. -/
theorem endOf_definitions_ne (p : Path) : endOf p.definitions.bytes ≠ endOf p.bytes := by
  intro heq
  let stem := dropEnding configurationEnding.toList p.display.toList
  have hdefinitions : p.definitions.bytes =
      Text.encodeUtf8 (String.ofList stem) ++ endingBytes := by
    rw [endingBytes, ← Text.encodeUtf8_append]
    simp [definitions, ofText, stem, String.ofList_append]
  rw [hdefinitions, endOf_append _ slash_notMem_endingBytes] at heq
  -- so the configuration is named like definitions, and no ending is taken off its name
  obtain ⟨before, hbytes⟩ : endingBytes <:+ p.bytes :=
    (heq ▸ List.suffix_append _ endingBytes).trans (endOf_suffix p.bytes)
  have hstem : String.ofList stem = Text.decodeLossy p.bytes := by
    have hdisplay : p.display.toList =
        (Text.decodeLossy before).toList ++ definitionsEnding.toList := by
      rw [display, ← hbytes, decodeLossy_append_endingBytes, String.toList_append]
    simp only [stem]
    rw [hdisplay, dropEnding_append_definitionsEnding, ← hdisplay, display, String.ofList_toList]
  rw [hstem] at heq
  exact endOf_ne_endOf_text p.bytes heq.symm

end SovdConfig.Path
