import SovdConfig.Proofs.Attempt
import SovdConfig.Proofs.Json.Grammar

namespace SovdConfig.Json

/-!
# Reading strings

A string of the grammar is read up to its closing quote.  Main statements:

* `readString_append` — it is read as its characters;
* `skipString_append` — it is passed over.
-/

open Toml (IsDigitOf)

/-! ### Escapes -/

/-- A hexadecimal digit in either letter case has its value. -/
theorem hexValue?_of_isDigitOf {c : Char} {d : Nat} (h : IsDigitOf 16 c d) :
    hexValue? c = some d := by
  have hall : ∀ d < 16, hexValue? (Nat.digitChar d) = some d ∧
      hexValue? (Nat.digitChar d).toUpper = some d := by decide
  obtain ⟨hd, rfl | rfl⟩ := h
  · exact (hall d hd).1
  · exact (hall d hd).2

/-- Four hexadecimal digits are read as the number they spell. -/
theorem readHexUnit_append {cs : List Char} {n : Nat} (h : HexUnit cs n) (rest : List Char) :
    readHexUnit (cs ++ rest) = .ok (n, rest) := by
  obtain ⟨a, b, c, d, x, y, z, w, rfl, ha, hb, hc, hd, rfl⟩ := h
  simp [readHexUnit, hexUnit?, hexValue?_of_isDigitOf ha, hexValue?_of_isDigitOf hb,
    hexValue?_of_isDigitOf hc, hexValue?_of_isDigitOf hd]

/-- A letter after a backslash stands for the character that it escapes. -/
theorem shortEscape?_of_mem {letter c : Char} (h : (letter, c) ∈ shortEscapes) :
    shortEscape? letter = some c := by
  revert h
  simp only [shortEscapes, List.mem_cons, Prod.mk.injEq, List.not_mem_nil, or_false]
  rintro (⟨rfl, rfl⟩ | ⟨rfl, rfl⟩ | ⟨rfl, rfl⟩ | ⟨rfl, rfl⟩ | ⟨rfl, rfl⟩ | ⟨rfl, rfl⟩ |
    ⟨rfl, rfl⟩ | ⟨rfl, rfl⟩) <;> rfl

/-- The number of a character that is no surrogate is read as that character. -/
theorem readUnicode_unit {cs : List Char} {n : Nat} (h : HexUnit cs n)
    (hn : n < 0xD800 ∨ 0xDFFF < n) (rest : List Char) :
    readUnicode (cs ++ rest) = .ok (Char.ofNat n, rest) := by
  have hlow : ¬ (0xDC00 ≤ n ∧ n ≤ 0xDFFF) := by omega
  have hhigh : n < 0xD800 ∨ 0xDBFF < n := by omega
  simp only [readUnicode, readHexUnit_append h, ok_bind, hlow, if_false, hhigh, if_true]

/-- The numbers of two surrogates are read as the character they make together. -/
theorem readUnicode_pair {cs ds : List Char} {high low : Nat} (h : HexUnit cs high)
    (hhigh : 0xD800 ≤ high ∧ high ≤ 0xDBFF) (h' : HexUnit ds low)
    (hlow : 0xDC00 ≤ low ∧ low ≤ 0xDFFF) (rest : List Char) :
    readUnicode (cs ++ '\\' :: 'u' :: (ds ++ rest)) =
      .ok (Char.ofNat (0x10000 + (high - 0xD800) * 0x400 + (low - 0xDC00)), rest) := by
  have hnotLow : ¬ (0xDC00 ≤ high ∧ high ≤ 0xDFFF) := by omega
  have hnotUnit : ¬ (high < 0xD800 ∨ 0xDBFF < high) := by omega
  have hinRange : ¬ (low < 0xDC00 ∨ 0xDFFF < low) := by omega
  simp only [readUnicode, readHexUnit_append h, readHexUnit_append h', expectInEscape, ok_bind,
    hnotLow, hnotUnit, hinRange, if_false, if_true]

/-! ### Characters -/

/-- Whether one step of reading takes the text of a character, and a few steps of skipping pass
    over it. -/
structure ReadsChar (cs : List Char) (c : Char) : Prop where
  read (fuel : Nat) (acc rest : List Char) :
    readStringBody (fuel + 1) acc (cs ++ rest) = readStringBody fuel (c :: acc) rest
  skip : ∃ steps ≤ cs.length, ∀ fuel rest,
    skipStringBody (fuel + steps) (cs ++ rest) = skipStringBody fuel rest
  nonempty : cs ≠ []

/-- An escape is passed over by one step if its end is found. -/
theorem skipStringBody_escape (cs : List Char) (h : ∀ rest, skipEscape (cs ++ rest) = .ok rest)
    (fuel : Nat) (rest : List Char) :
    skipStringBody (fuel + 1) ('\\' :: (cs ++ rest)) = skipStringBody fuel rest := by
  simp only [skipStringBody, Char.reduceEq, if_false, if_true, h, ok_bind]

/-- An escape is read by one step if its character is found. -/
theorem readStringBody_escape (cs : List Char) {c : Char}
    (h : ∀ rest, readEscape (cs ++ rest) = .ok (c, rest)) (fuel : Nat) (acc rest : List Char) :
    readStringBody (fuel + 1) acc ('\\' :: (cs ++ rest)) =
      readStringBody fuel (c :: acc) rest := by
  simp only [readStringBody, Char.reduceEq, if_false, if_true, h, ok_bind]

/-- Four hexadecimal digits after their letter are passed over. -/
theorem skipEscape_unit {cs : List Char} {n : Nat} (h : HexUnit cs n) (rest : List Char) :
    skipEscape ('u' :: cs ++ rest) = .ok rest := by
  simp [skipEscape, shortEscape?, readHexUnit_append h, Except.map]

/-- Every way of writing a character is read as that character. -/
theorem CharText.reads {cs : List Char} {c : Char} (h : CharText cs c) : ReadsChar cs c := by
  cases h with
  | plain hspace hquote hescape =>
    have hcontrol : ¬ c.toNat < 0x20 := Nat.not_lt_of_le hspace
    refine ⟨fun fuel acc rest => ?_, ⟨1, by simp, fun fuel rest => ?_⟩, by simp⟩
    · simp [readStringBody, hquote, hescape, hcontrol]
    · simp [skipStringBody, hquote, hescape, hcontrol]
  | @short letter _ hmem =>
    have hshort := shortEscape?_of_mem hmem
    refine ⟨readStringBody_escape [letter] fun rest => ?_,
      ⟨1, by simp, skipStringBody_escape [letter] fun rest => ?_⟩, by simp⟩
    · simp [readEscape, hshort]
    · simp [skipEscape, hshort]
  | @unit cs n hunit hn =>
    refine ⟨readStringBody_escape ('u' :: cs) fun rest => ?_,
      ⟨1, by simp, skipStringBody_escape _ (skipEscape_unit hunit)⟩, by simp⟩
    simp [readEscape, shortEscape?, readUnicode_unit hunit hn]
  | @pair cs ds high low h hhigh h' hlow =>
    refine ⟨fun fuel acc rest => ?_, ⟨2, by simp, fun fuel rest => ?_⟩, by simp⟩
    · have hread : ∀ rest, readEscape ('u' :: (cs ++ '\\' :: 'u' :: ds) ++ rest) = .ok (_, rest) :=
        fun rest => by
          simpa [readEscape, shortEscape?] using readUnicode_pair h hhigh h' hlow rest
      simpa using readStringBody_escape _ hread fuel acc rest
    -- the two surrogates of a pair are passed over one after the other
    · have hhead :=
        skipStringBody_escape _ (skipEscape_unit h) (fuel + 1) ('\\' :: 'u' :: (ds ++ rest))
      have htail := skipStringBody_escape _ (skipEscape_unit h') fuel rest
      simp only [List.cons_append, List.append_assoc] at hhead htail ⊢
      rw [hhead, htail]

/-! ### Strings -/

/-- The characters of a string are read one by one. -/
theorem StringText.readStringBody_append {cs text : List Char} (h : StringText cs text)
    (fuel : Nat) (hfuel : cs.length < fuel) (acc rest : List Char) :
    readStringBody fuel acc (cs ++ '"' :: rest) = .ok (acc.reverse ++ text, rest) := by
  induction h generalizing fuel acc with
  | nil =>
    obtain ⟨fuel, rfl⟩ := Nat.exists_eq_add_one_of_ne_zero (Nat.ne_zero_of_lt hfuel)
    simp [readStringBody]
  | @cons cs more text c hchar _ ih =>
    obtain ⟨fuel, rfl⟩ := Nat.exists_eq_add_one_of_ne_zero (Nat.ne_zero_of_lt hfuel)
    have hlength := List.length_pos_iff.2 hchar.reads.nonempty
    rw [List.length_append] at hfuel
    rw [List.append_assoc, hchar.reads.read, ih fuel (by omega)]
    simp

/-- A string is read after its opening quote. -/
theorem readString_append {cs text : List Char} (h : StringText cs text) (rest : List Char) :
    readString (cs ++ '"' :: rest) = .ok (String.ofList text, rest) := by
  have hread := h.readStringBody_append (cs ++ '"' :: rest).length (by simp) [] rest
  simp only [readString, hread, ok_bind]
  rfl

/-- The characters of a string are passed over in at most as many steps as there are. -/
theorem StringText.skipStringBody_append {cs text : List Char} (h : StringText cs text) :
    ∃ steps ≤ cs.length, ∀ fuel rest,
      skipStringBody (fuel + steps) (cs ++ rest) = skipStringBody fuel rest := by
  induction h with
  | nil => exact ⟨0, by simp, fun fuel rest => rfl⟩
  | @cons cs more text c hchar _ ih =>
    obtain ⟨some, hsome, hskip⟩ := hchar.reads.skip
    obtain ⟨others, hothers, hskips⟩ := ih
    refine ⟨others + some, by simp; omega, fun fuel rest => ?_⟩
    rw [List.append_assoc, ← Nat.add_assoc, hskip, hskips]

/-- A string that is not wanted is passed over after its opening quote. -/
theorem skipString_append {cs text : List Char} (h : StringText cs text) (rest : List Char) :
    skipString (cs ++ '"' :: rest) = .ok rest := by
  obtain ⟨steps, hsteps, hskip⟩ := h.skipStringBody_append
  have hfuel : (cs ++ '"' :: rest).length = (cs.length - steps + rest.length + 1) + steps := by
    simp only [List.length_append, List.length_cons]
    omega
  rw [skipString, hfuel, hskip, skipStringBody]
  simp

end SovdConfig.Json
