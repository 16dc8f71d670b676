import SovdConfig.Ecu.Document
import SovdConfig.Proofs.Number.Numeral
import SovdConfig.Proofs.Text.Lowercase
import SovdConfig.Proofs.Toml.Header

namespace SovdConfig

/-!
# Section keys of names

Main definitions:

* `Identity.separators` — the characters that become underscores, and the underscore itself;
* `Identity.IsNormal` — texts that are their own section key;
* `Identity.IsKeyable` — characters that become characters of bare keys.

Main statements:

* `Identity.deriveId_normalForm` — names that differ in letter case or separators have the same key,
  and that is its own key;
* `Identity.deriveId_usable_iff` — the names whose key names the table that it stands for.
-/

open Text Toml

namespace Identity

/-! ### Characters -/

/-- The characters that stand between words: the blank, the hyphen and the underscore. -/
def separators : List Char := [' ', '-', '_']

/-- The end of a word does not depend on what separates it from the next one. -/
theorem neutral_of_mem_separators : ∀ c ∈ separators, Neutral c := by
  have hall : ∀ c ∈ separators, IsLower c ∧ isCased c = false ∧ isCaseIgnorable c = false := by
    decide +kernel
  exact fun c hc => ⟨(hall c hc).1, (hall c hc).2.1, (hall c hc).2.2⟩

/-- Separators all become underscores. -/
theorem joinWords_of_mem_separators : ∀ c ∈ separators, joinWords c = '_' := by decide

/-- The characters of a section key are those of the name in lower case, with words joined. -/
theorem toList_deriveId (name : String) :
    (deriveId name).toList = (lowerFrom [] name.toList).map joinWords := by
  simp [deriveId, lowercase]

/-- What they are like is known character by character. -/
theorem forall_mem_deriveId_iff {P : Char → Prop} (hP : P 'σ' ↔ P 'ς') (name : String) :
    (∀ d ∈ (deriveId name).toList, P d) ↔
      ∀ c ∈ name.toList, ∀ d ∈ lowerChar c, P (joinWords d) := by
  have hsigma : P (joinWords 'σ') ↔ P (joinWords 'ς') := by
    rwa [show joinWords 'σ' = 'σ' by decide, show joinWords 'ς' = 'ς' by decide]
  rw [← forall_mem_lowerFrom_iff (P := fun d => P (joinWords d)) hsigma [] name.toList,
    toList_deriveId, List.forall_mem_map]

/-! ### Normal form -/

/-- Whether a text has no blanks, no hyphens and no characters with another lower-case. -/
def IsNormal (text : String) : Prop := ∀ c ∈ text.toList, c ≠ ' ' ∧ c ≠ '-' ∧ IsLower c

/-- A section key is of that form. -/
theorem isNormal_deriveId (name : String) : IsNormal (deriveId name) := by
  have hsigma : ('σ' ≠ ' ' ∧ 'σ' ≠ '-' ∧ IsLower 'σ') ↔ ('ς' ≠ ' ' ∧ 'ς' ≠ '-' ∧ IsLower 'ς') := by
    decide +kernel
  refine (forall_mem_deriveId_iff hsigma name).2 fun c _ d hd => ?_
  have hd := isLower_of_mem_lowerChar hd
  unfold joinWords
  split
  · decide +kernel
  · next hne =>
    obtain ⟨hblank, hhyphen⟩ := not_or.1 hne
    exact ⟨hblank, hhyphen, hd⟩

/-- Texts of that form are their own section keys, and no others are. -/
theorem deriveId_eq_self_iff (text : String) : deriveId text = text ↔ IsNormal text := by
  constructor
  · intro h
    rw [← h]
    exact isNormal_deriveId text
  · intro h
    have hlower : lowercase text = text := (lowercase_eq_self_iff text).2 fun c hc => (h c hc).2.2
    have hjoin : ∀ c ∈ text.toList, joinWords c = c := fun c hc => by
      simp [joinWords, (h c hc).1, (h c hc).2.1]
    rw [deriveId, hlower, String.ext_iff, String.toList_map, List.map_congr_left hjoin,
      List.map_id']

/-- Only the empty name has an empty key. -/
theorem deriveId_eq_empty_iff (name : String) : deriveId name = "" ↔ name = "" := by
  rw [← String.toList_eq_nil_iff, toList_deriveId, List.map_eq_nil_iff, lowerFrom_eq_nil_iff,
    String.toList_eq_nil_iff]

/-- Whether one name is another one with some separators in the place of others. -/
def Respelled (name other : String) : Prop :=
  List.Forall₂ (Exchanged separators) name.toList other.toList

/-- Such names have the same key. -/
theorem deriveId_of_respelled {name other : String} (h : Respelled name other) :
    deriveId other = deriveId name := by
  have hlower := lowerFrom_exchanged neutral_of_mem_separators .nil h
  have hjoin : ∀ c d, Exchanged separators c d → joinWords c = joinWords d := by
    rintro c d (rfl | ⟨hc, hd⟩)
    · rfl
    · rw [joinWords_of_mem_separators c hc, joinWords_of_mem_separators d hd]
  have hsame : List.Forall₂ Eq (deriveId name).toList (deriveId other).toList := by
    rw [toList_deriveId, toList_deriveId, List.forall₂_map_left_iff, List.forall₂_map_right_iff]
    exact hlower.imp hjoin
  rw [List.forall₂_eq_eq_eq] at hsame
  exact (String.toList_inj.1 hsame).symm

/-- Letter case makes no difference to the key either. -/
theorem deriveId_lowercase (name : String) : deriveId (lowercase name) = deriveId name := by
  rw [deriveId, lowercase_lowercase, deriveId]

/-- A section key is a normal form of names.  It is its own key, has no blanks, no hyphens and no
    characters that lower-casing would change, and is empty only if the name is; lower-casing the
    name first, or putting some separators in the place of others, does not change it.  The texts
    that are their own keys are the keys, and are those of this form. -/
theorem deriveId_normalForm (name : String) :
    deriveId (deriveId name) = deriveId name ∧
      (∀ c ∈ (deriveId name).toList, c ≠ ' ' ∧ c ≠ '-' ∧ lowerChar c = [c]) ∧
      (deriveId name ≠ "" ↔ name ≠ "") ∧
      deriveId (lowercase name) = deriveId name ∧
      (∀ other, Respelled name other → deriveId other = deriveId name) ∧
      (deriveId name = name ↔ IsNormal name) :=
  ⟨(deriveId_eq_self_iff _).2 (isNormal_deriveId name), isNormal_deriveId name,
    (deriveId_eq_empty_iff name).not, deriveId_lowercase name, fun _ => deriveId_of_respelled,
    deriveId_eq_self_iff name⟩

/-- For one, a name with a sigma at the end of each word, and a letter that becomes two. -/
theorem deriveId_normalForm_sigma :
    Respelled "ΟΔΟΣ-ΟΔΟΣ İ" "ΟΔΟΣ_ΟΔΟΣ-İ" ∧ deriveId "ΟΔΟΣ_ΟΔΟΣ-İ" = "οδος_οδος_i̇" ∧
      deriveId "ΟΔΟΣ-ΟΔΟΣ İ" = "οδος_οδος_i̇" := by
  have hrespelled : Respelled "ΟΔΟΣ-ΟΔΟΣ İ" "ΟΔΟΣ_ΟΔΟΣ-İ" := by
    unfold Respelled Exchanged
    decide +kernel
  have hkey : deriveId "ΟΔΟΣ-ΟΔΟΣ İ" = "οδος_οδος_i̇" := by decide +kernel
  exact ⟨hrespelled, ((deriveId_normalForm _).2.2.2.2.1 _ hrespelled).trans hkey, hkey⟩

/-! ### Usable keys -/

/-- Whether a character becomes a character of a bare key: an ASCII letter or digit, a separator, or
    the KELVIN SIGN. -/
def IsKeyable (c : Char) : Prop := c.isAlphanum ∨ c ∈ separators ∨ c = '\u212A'

instance (c : Char) : Decidable (IsKeyable c) := by
  unfold IsKeyable; infer_instance

/-- What a section key has of a character of a bare key. -/
def IsKeyChar (c : Char) : Prop := c.isLower ∨ c.isDigit ∨ c = '_'

instance (c : Char) : Decidable (IsKeyChar c) := by
  unfold IsKeyChar; infer_instance

/-- Bare keys are in ASCII. -/
theorem ascii_of_isBareKeyChar {c : Char} (h : isBareKeyChar c) : c.toNat < 0x80 := by
  obtain h | rfl | rfl : c.isAlphanum ∨ c = '_' ∨ c = '-' := by
    simpa [isBareKeyChar, or_assoc] using h
  · exact Nat.lt_of_le_of_lt (code_of_isAlphanum h).2 (by decide)
  · decide
  · decide

/-- So are the characters that are known to become characters of bare keys, but for one. -/
theorem ascii_of_isKeyable {c : Char} (h : IsKeyable c) : c.toNat < 0x80 ∨ c = '\u212A' := by
  obtain halnum | hsep | hkelvin := h
  · exact .inl (ascii_of_isBareKeyChar (by simp [isBareKeyChar, halnum]))
  · have hall : ∀ c ∈ separators, c.toNat < 0x80 := by decide
    exact .inl (hall c hsep)
  · exact .inr hkelvin

/-- These become what section keys may have of bare keys, and the others in ASCII do not. -/
theorem joinWords_of_ascii {c : Char} (h : c.toNat < 0x80 ∨ c = '\u212A') :
    ((∀ d ∈ lowerChar c, isBareKeyChar (joinWords d)) ↔ IsKeyable c) ∧
      (IsKeyable c → ∀ d ∈ lowerChar c, IsKeyChar (joinWords d)) := by
  obtain h | rfl := h
  · have hall : ∀ n < 0x80, (isBareKeyChar (joinWords (Char.ofNat n).toLower) = true ↔
        IsKeyable (Char.ofNat n)) ∧
        (IsKeyable (Char.ofNat n) → IsKeyChar (joinWords (Char.ofNat n).toLower)) := by
      decide +kernel
    have hc := hall c.toNat h
    rw [Char.ofNat_toNat] at hc
    simpa only [lowerChar_of_ascii h, List.forall_mem_singleton] using hc
  · decide +kernel

/-- All other characters have some outside ASCII in their lower-case. -/
theorem exists_of_not_ascii {c : Char} (h : ¬ (c.toNat < 0x80 ∨ c = '\u212A')) :
    ∃ d ∈ lowerChar c, ¬ d.toNat < 0x80 := by
  by_cases hdotted : c = '\u0130'
  · exact ⟨'\u0307', by simp [hdotted, lowerChar], by decide⟩
  · obtain ⟨d, hd, hcode⟩ := exists_lowerChar hdotted
    refine ⟨d, by simp [hd], fun hascii => h ?_⟩
    rw [hcode] at hascii
    exact (ascii_of_lowerCode hascii).imp_right fun heq => Char.toNat_inj.1 heq

/-- A character becomes characters of bare keys only if it is one of those that are known to. -/
theorem isKeyable_iff (c : Char) :
    (∀ d ∈ lowerChar c, isBareKeyChar (joinWords d)) ↔ IsKeyable c := by
  by_cases h : c.toNat < 0x80 ∨ c = '\u212A'
  · exact (joinWords_of_ascii h).1
  · refine ⟨fun hall => ?_, fun hkeyable => absurd (ascii_of_isKeyable hkeyable) h⟩
    obtain ⟨d, hd, hascii⟩ := exists_of_not_ascii h
    -- outside ASCII there are no separators that could be joined
    have hjoin : joinWords d = d := by
      have hne : ¬ (d = ' ' ∨ d = '-') := by
        rintro (rfl | rfl) <;> exact hascii (by decide)
      rw [joinWords, if_neg hne]
    exact absurd (ascii_of_isBareKeyChar (hjoin ▸ hall d hd)) hascii

/-- The names whose section keys are bare keys. -/
theorem isBareKey_deriveId_iff (name : String) :
    IsBareKey (deriveId name) ↔ name ≠ "" ∧ ∀ c ∈ name.toList, IsKeyable c := by
  have hsigma : isBareKeyChar 'σ' = true ↔ isBareKeyChar 'ς' = true := by decide
  rw [IsBareKey, ne_eq, deriveId_eq_empty_iff, forall_mem_deriveId_iff hsigma]
  simp only [isKeyable_iff]

/-- The section keys of such names are as long as the names. -/
theorem length_deriveId {name : String} (h : ∀ c ∈ name.toList, IsKeyable c) :
    (deriveId name).length = name.length := by
  have hdotted : name.toList.count '\u0130' = 0 :=
    List.count_eq_zero.2 fun hmem => absurd (h _ hmem) (by decide)
  rw [← String.length_toList, toList_deriveId, List.length_map, length_lowerFrom, hdotted,
    Nat.add_zero, String.length_toList]

/-- They have small letters, digits and underscores only. -/
theorem isKeyChar_of_mem_deriveId {name : String} (h : ∀ c ∈ name.toList, IsKeyable c) :
    ∀ d ∈ (deriveId name).toList, IsKeyChar d := by
  have hsigma : IsKeyChar 'σ' ↔ IsKeyChar 'ς' := by decide
  refine (forall_mem_deriveId_iff hsigma name).2 fun c hc => ?_
  exact (joinWords_of_ascii (ascii_of_isKeyable (h c hc))).2 (h c hc)

/-- Exactly which names have a usable section key.  First, those have a bare key that are not empty
    and have no characters but ASCII letters and digits, blanks, hyphens, underscores and the KELVIN
    SIGN.  Second, they are the names whose unit has a header that names the table of its key.
    Third, their keys have small letters, digits and underscores only and are as long as the names,
    and the header of the unit's transport names a table below. -/
theorem deriveId_usable_iff (name : String) :
    (IsBareKey (deriveId name) ↔ name ≠ "" ∧ ∀ c ∈ name.toList, IsKeyable c) ∧
      ((∀ rest, statement? ((headerLine ("ecu." ++ deriveId name)).toList ++ '\n' :: rest) =
          some (.header false ["ecu", deriveId name], '\n' :: rest)) ↔
        name ≠ "" ∧ ∀ c ∈ name.toList, IsKeyable c) ∧
      (name ≠ "" → (∀ c ∈ name.toList, IsKeyable c) →
        (∀ d ∈ (deriveId name).toList, d.isLower ∨ d.isDigit ∨ d = '_') ∧
        (deriveId name).length = name.length ∧
        ∀ (kind : TransportKind) (rest : List Char),
          statement? ((headerLine ("ecu." ++ deriveId name ++ ".transport." ++ kind.name)).toList ++
              '\n' :: rest) =
            some (.header false ["ecu", deriveId name, "transport", kind.name], '\n' :: rest)) := by
  have hbare := isBareKey_deriveId_iff name
  refine ⟨hbare, ?_, fun hne hchars => ⟨isKeyChar_of_mem_deriveId hchars, length_deriveId hchars,
    fun kind rest => ?_⟩⟩
  · have hheader : ∀ rest, (headerLine ("ecu." ++ deriveId name)).toList ++ '\n' :: rest =
        '[' :: (("ecu" ++ "." ++ deriveId name).toList ++ ']' :: '\n' :: rest) := by
      simp [headerLine]
    simp only [hheader]
    rw [statement?_header_iff (by decide), hbare]
  · let keys := ["ecu", deriveId name, "transport", kind.name]
    have hkind : IsBareKey kind.name := by cases kind <;> decide
    have hkeys : ∀ key ∈ keys, IsBareKey key := by
      simpa [keys] using ⟨by decide, hbare.2 ⟨hne, hchars⟩, by decide, hkind⟩
    have hheader : (headerLine ("ecu." ++ deriveId name ++ ".transport." ++ kind.name)).toList ++
        '\n' :: rest = '[' :: ((".".intercalate keys).toList ++ ']' :: '\n' :: rest) := by
      simp [headerLine, keys]
    rw [hheader]
    exact statement?_of_header (by simp [keys]) hkeys rest

/-- For one, a name with all kinds of characters that are allowed, and three with one that is
    not. -/
theorem deriveId_usable_kelvin :
    let name := "Body-Control \u212A_2"
    (name ≠ "" ∧ ∀ c ∈ name.toList, IsKeyable c) ∧ deriveId name = "body_control_k_2" ∧
      IsBareKey (deriveId name) ∧ (deriveId name).length = name.length ∧
      ¬ IsBareKey (deriveId "ABS.2") ∧ ¬ IsBareKey (deriveId "Türsteuerung") ∧
      ¬ IsBareKey (deriveId "İ") := by
  intro name
  have hname : name ≠ "" ∧ ∀ c ∈ name.toList, IsKeyable c := ⟨by decide, by decide⟩
  refine ⟨hname, by decide +kernel, (deriveId_usable_iff name).1.2 hname,
    ((deriveId_usable_iff name).2.2 hname.1 hname.2).2.1, fun h => ?_, fun h => ?_, fun h => ?_⟩
  · exact absurd ((deriveId_usable_iff "ABS.2").1.1 h).2 (by decide)
  · exact absurd ((deriveId_usable_iff "Türsteuerung").1.1 h).2 (by decide)
  · exact absurd ((deriveId_usable_iff "İ").1.1 h).2 (by decide)

end Identity

end SovdConfig
