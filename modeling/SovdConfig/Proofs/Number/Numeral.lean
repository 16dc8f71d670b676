import SovdConfig.Number.Digits
import SovdConfig.Number.Numeral

namespace SovdConfig

/-!
# Numbers written in decimal

Main definition: `DecimalText`, an optional sign and decimal digits, and the integer they denote.

Main statements:

* `integer?_of_decimalText` — such a text is read as its integer;
* `decimal?_point` — digits around a point are read as the double nearest to them;
* `decimalText_integerText` — every integer is printed as such a text.
-/

/-- An optional sign and at least one decimal digit, and the integer they denote. -/
inductive DecimalText : List Char → Int → Prop
  | unsigned {ds : List Char} :
    ds ≠ [] → (∀ c ∈ ds, c.isDigit) → DecimalText ds (Nat.ofDigitChars 10 ds 0)
  | plus {ds : List Char} :
    ds ≠ [] → (∀ c ∈ ds, c.isDigit) → DecimalText ('+' :: ds) (Nat.ofDigitChars 10 ds 0)
  | minus {ds : List Char} :
    ds ≠ [] → (∀ c ∈ ds, c.isDigit) → DecimalText ('-' :: ds) (-(Nat.ofDigitChars 10 ds 0 : Int))

/-- An integer in decimal starts with a sign or a digit. -/
theorem DecimalText.exists_cons {cs : List Char} {n : Int} (h : DecimalText cs n) :
    ∃ c rest, cs = c :: rest ∧ c.toNat < 0x41 := by
  have hdigit : ∀ {ds : List Char}, ds ≠ [] → (∀ c ∈ ds, c.isDigit) →
      ∃ c rest, ds = c :: rest ∧ c.toNat < 0x41 := by
    intro ds hne hds
    obtain ⟨c, rest, rfl⟩ := List.exists_cons_of_ne_nil hne
    have hc := hds c (by simp)
    simp only [Char.isDigit, Bool.and_eq_true, decide_eq_true_eq, UInt32.le_iff_toNat_le] at hc
    exact ⟨c, rest, rfl, Nat.lt_of_le_of_lt hc.2 (by decide)⟩
  cases h with
  | unsigned hne hds => exact hdigit hne hds
  | plus _ _ => exact ⟨'+', _, rfl, by decide⟩
  | minus _ _ => exact ⟨'-', _, rfl, by decide⟩

/-- Further digits make a number no less. -/
theorem le_ofDigitChars (ds : List Char) (n : Nat) : n ≤ Nat.ofDigitChars 10 ds n := by
  induction ds generalizing n with
  | nil => simp
  | cons c ds ih =>
    rw [Nat.ofDigitChars_cons]
    exact Nat.le_trans (by omega) (ih _)

/-! ### Characters of numbers -/

/-- Letters and digits are the ASCII ones, and these come behind the blank and the signs. -/
theorem code_of_isAlphanum {c : Char} (h : c.isAlphanum = true) :
    48 ≤ c.toNat ∧ c.toNat ≤ 122 := by
  change (decide (65 ≤ c.val ∧ c.val ≤ 90) || (decide (97 ≤ c.val) && decide (c.val ≤ 122)) ||
    (decide (48 ≤ c.val) && decide (c.val ≤ 57))) = true at h
  simp only [Bool.or_eq_true, Bool.and_eq_true, decide_eq_true_eq, UInt32.le_iff_toNat_le] at h
  rcases h with (⟨h, h'⟩ | ⟨h, h'⟩) | ⟨h, h'⟩ <;> simp at h h' <;> omega

/-- The characters of a decimal number are letters or digits. -/
theorem isAlphanum_of_mem_decimalText {n : Nat} {c : Char} (h : c ∈ (decimalText n).toList) :
    c.isAlphanum = true := by
  simp [Char.isAlphanum, isDigit_of_mem_decimalText h]

/-- Hexadecimal digits are letters or digits. -/
theorem isAlphanum_of_mem_hexDigits {n : Nat} {c : Char} (h : c ∈ hexDigits true n) :
    c.isAlphanum = true := by
  have hdigit : ∀ d < 16, (Nat.digitChar d).toUpper.isAlphanum = true := by decide
  induction n using Nat.strongRecOn with
  | _ n ih =>
    by_cases hn : n < 16
    · obtain rfl : c = (Nat.digitChar n).toUpper := by
        simpa [hexDigits, Nat.toDigits_of_lt_base hn] using h
      exact hdigit n hn
    · have hle : 16 ≤ n := Nat.le_of_not_lt hn
      have hmem : c ∈ hexDigits true (n / 16) ∨ c = (Nat.digitChar (n % 16)).toUpper := by
        simpa [hexDigits, Nat.toDigits_of_base_le (by decide) hle] using h
      rcases hmem with hmem | rfl
      · exact ih (n / 16) (by omega) hmem
      · exact hdigit (n % 16) (Nat.mod_lt n (by decide))

/-- So are the characters of a number in hexadecimal. -/
theorem isAlphanum_of_mem_hexText {width n : Nat} {c : Char} (h : c ∈ (hexText width n).toList) :
    c.isAlphanum = true := by
  rw [hexText, String.toList_ofList] at h
  simp only [padLeft, List.mem_cons, List.mem_append, List.mem_replicate] at h
  rcases h with rfl | rfl | ⟨-, rfl⟩ | h
  · decide
  · decide
  · decide
  · exact isAlphanum_of_mem_hexDigits h

namespace Numeral

/-- The value of digits is the number they denote. -/
theorem valueOf_eq_ofDigitChars (ds : List Char) : valueOf ds = Nat.ofDigitChars 10 ds 0 := by
  rw [valueOf, Nat.ofDigitChars_eq_foldl]
  rfl

/-- The digits of a number have its value. -/
theorem valueOf_toDigits (n : Nat) : valueOf (Nat.toDigits 10 n) = n := by
  rw [valueOf_eq_ofDigitChars, Nat.ofDigitChars_ten_toDigits]

/-- Digits are read as the number they denote. -/
theorem digits?_eq_some {ds : List Char} (hne : ds ≠ []) (h : ∀ c ∈ ds, c.isDigit) :
    digits? ds = some (Nat.ofDigitChars 10 ds 0) := by
  rw [digits?, if_pos ⟨hne, List.all_eq_true.2 h⟩, valueOf_eq_ofDigitChars]

/-- A digit is none of the marks in a number. -/
theorem ne_of_isDigit {c : Char} (h : c.isDigit) : c ≠ '+' ∧ c ≠ '-' ∧ c ≠ '.' := by
  refine ⟨?_, ?_, ?_⟩ <;> rintro rfl <;> simp at h

/-- Digits are taken up to the first character that is none. -/
theorem spanDigits_append {digits rest : List Char} (h : ∀ c ∈ digits, c.isDigit)
    (hrest : ∀ c ∈ rest.head?, c.isDigit = false) :
    spanDigits (digits ++ rest) = (digits, rest) := by
  have hstop : rest.takeWhile Char.isDigit = [] ∧ rest.dropWhile Char.isDigit = rest := by
    rcases rest with - | ⟨c, rest⟩
    · simp
    · simp [hrest c rfl]
  simp [spanDigits, List.takeWhile_append_of_pos h, List.dropWhile_append_of_pos h, hstop]

/-- Digits around a point are read as the double nearest to them. -/
theorem decimal?_point (negative : Bool) {whole fraction : List Char} (hne : whole ≠ [])
    (hwhole : ∀ c ∈ whole, c.isDigit) (hfraction : ∀ c ∈ fraction, c.isDigit) :
    decimal? negative (whole ++ '.' :: fraction) =
      some (Binary64.ofDecimal negative (valueOf (whole ++ fraction))
        (-(fraction.length : Int))) := by
  have hpoint : spanDigits (whole ++ '.' :: fraction) = (whole, '.' :: fraction) :=
    spanDigits_append hwhole (by simp)
  have hend : spanDigits fraction = (fraction, []) := by
    simpa using spanDigits_append hfraction (show ∀ c ∈ [].head?, _ by simp)
  simp [decimal?, hpoint, hend, hne, exponent?]

/-- A digit is the same in lower case. -/
theorem toLower_of_isDigit {c : Char} (h : c.isDigit) : c.toLower = c := by
  unfold Char.toLower
  rw [dif_neg]
  intro hupper
  simp only [Char.isDigit, Bool.and_eq_true, decide_eq_true_eq] at h
  exact absurd (UInt32.le_trans hupper.1 h.2) (by decide)

/-- A text that starts with a digit, after a minus sign or none, is a double only as a decimal. -/
theorem double?_of_isDigit (negative : Bool) {c : Char} (hc : c.isDigit) (cs : List Char) :
    double? ((if negative then ['-'] else []) ++ c :: cs) = decimal? negative (c :: cs) := by
  have hsplit : splitSign ((if negative then ['-'] else []) ++ c :: cs) = (negative, c :: cs) := by
    cases negative with
    | false =>
      obtain ⟨hplus, hminus, -⟩ := ne_of_isDigit hc
      simp [splitSign, hplus, hminus]
    | true => simp [splitSign]
  -- none of the words starts with a digit
  have hword : ∀ w ∈ ["inf", "infinity", "nan"],
      String.ofList ((c :: cs).map Char.toLower) ≠ w := by
    intro w hw heq
    have hhead : ∀ w ∈ ["inf", "infinity", "nan"], w.toList.head?.any Char.isDigit = false := by
      decide
    have hd := hhead w hw
    simp [← heq, toLower_of_isDigit hc, hc] at hd
  simp only [List.forall_mem_cons] at hword
  rw [double?, hsplit]
  simp only [hword, or_self, if_false]

/-- A digit is no sign. -/
theorem splitSign_of_isDigit {ds : List Char} (h : ∀ c ∈ ds, c.isDigit) :
    splitSign ds = (false, ds) := by
  unfold splitSign
  split
  · exact absurd (h '-' (by simp)) (by decide)
  · exact absurd (h '+' (by simp)) (by decide)
  · rfl

/-- An integer in decimal is read as the integer that it denotes. -/
theorem integer?_of_decimalText {cs : List Char} {n : Int} (h : DecimalText cs n) :
    integer? cs = some n := by
  cases h with
  | unsigned hne hds =>
    rw [integer?, splitSign_of_isDigit hds]
    simp [digits?_eq_some hne hds]
  | plus hne hds => simp [integer?, splitSign, digits?_eq_some hne hds]
  | minus hne hds => simp [integer?, splitSign, digits?_eq_some hne hds]

end Numeral

/-- An integer is printed in decimal. -/
theorem decimalText_integerText (n : Int) : DecimalText (integerText n).toList n := by
  have hne : Nat.toDigits 10 n.natAbs ≠ [] := Nat.toDigits_ne_nil
  have hdigits : ∀ c ∈ Nat.toDigits 10 n.natAbs, c.isDigit := fun c hc =>
    isDigit_of_mem_decimalText (by simpa [decimalText] using hc)
  unfold integerText
  split
  · have h := DecimalText.minus hne hdigits
    rw [Nat.ofDigitChars_ten_toDigits, show -(n.natAbs : Int) = n by omega] at h
    simpa [decimalText] using h
  · have h := DecimalText.unsigned hne hdigits
    rw [Nat.ofDigitChars_ten_toDigits, show (n.natAbs : Int) = n by omega] at h
    simpa [decimalText] using h

end SovdConfig
