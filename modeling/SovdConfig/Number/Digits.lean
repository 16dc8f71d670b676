namespace SovdConfig

/-!
# Digits

Natural numbers as text.  Main definitions:

* `padLeft` — zeros in front, up to a width;
* `decimalText` — decimal digits;
* `hexDigits`, `hexText` — hexadecimal digits, and the same after `0x`.
-/

/-- The characters with zeros in front, up to a width. -/
def padLeft (width : Nat) (cs : List Char) : List Char :=
  List.replicate (width - cs.length) '0' ++ cs

/-- Padding reaches the width. -/
theorem length_padLeft (width : Nat) (cs : List Char) :
    (padLeft width cs).length = max width cs.length := by
  simp [padLeft]; omega

/-- The decimal digits of a number. -/
def decimalText (n : Nat) : String := String.ofList (Nat.toDigits 10 n)

/-- The characters of a decimal number are digits. -/
theorem isDigit_of_mem_decimalText {n : Nat} {c : Char} (h : c ∈ (decimalText n).toList) :
    c.isDigit := by
  rw [decimalText, String.toList_ofList] at h
  exact Nat.isDigit_of_mem_toDigits (by decide) (by decide) h

/-- Different numbers have different decimal digits. -/
theorem decimalText_inj {m n : Nat} : decimalText m = decimalText n ↔ m = n := by
  refine ⟨fun h => ?_, fun h => by rw [h]⟩
  have hdigits : Nat.toDigits 10 m = Nat.toDigits 10 n := by
    simpa [decimalText] using congrArg String.toList h
  rw [← Nat.ofDigitChars_ten_toDigits (n := m), hdigits, Nat.ofDigitChars_ten_toDigits]

/-- The decimal digits of an integer, after a minus sign if it is negative. -/
def integerText (n : Int) : String :=
  if n < 0 then "-" ++ decimalText n.natAbs else decimalText n.natAbs

/-- There is always a digit. -/
theorem integerText_ne_empty (n : Int) : integerText n ≠ "" := by
  have hdigits : ∀ k : Nat, decimalText k ≠ "" := fun k => by
    simp [decimalText, String.ext_iff, Nat.toDigits_ne_nil]
  unfold integerText
  split <;> simp [hdigits]

/-- The hexadecimal digits of a number in upper or lower case. -/
def hexDigits (upper : Bool) (n : Nat) : List Char :=
  (Nat.toDigits 16 n).map fun c => if upper then c.toUpper else c

/-- A number in hexadecimal after `0x`, upper-case, with zeros up to a width. -/
def hexText (width n : Nat) : String :=
  String.ofList ('0' :: 'x' :: padLeft width (hexDigits true n))

end SovdConfig
