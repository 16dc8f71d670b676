import SovdConfig.Number.Digits
import SovdConfig.Proofs.Toml.Grammar

namespace SovdConfig.Toml

/-!
# Written numbers as TOML integers

The texts that numbers are written as are integer literals of the same numbers.  Main statements:

* `digitRun_toDigits`, `DigitRun.padLeft` — digits, and zeros in front of them;
* `integerLiteral_decimalText` — decimal digits;
* `integerLiteral_hexText` — hexadecimal digits after `0x`.
-/

/-- The digits of a number in a base, under a change of letter case, spell that number. -/
theorem digitRun_toDigits {base : Nat} {f : Char → Char} (hb : 1 < base)
    (hf : ∀ d < base, IsDigitOf base (f (Nat.digitChar d)) d) (n : Nat) :
    DigitRun base ((Nat.toDigits base n).map f) n := by
  induction n using Nat.strongRecOn with
  | _ n ih =>
    by_cases hn : n < base
    · rw [Nat.toDigits_of_lt_base hn]
      exact .one (hf n hn)
    · have hle : base ≤ n := Nat.le_of_not_lt hn
      have hrest := ih (n / base) (Nat.div_lt_self (by omega) hb)
      have hnext := hrest.next (hf (n % base) (Nat.mod_lt n (by omega)))
      rw [Nat.div_add_mod' n base] at hnext
      rw [Nat.toDigits_of_base_le hb hle, List.map_append]
      exact hnext

/-- A zero in front does not change the number that digits spell. -/
theorem DigitRun.zero_cons {base : Nat} {cs : List Char} {n : Nat} (hb : 0 < base)
    (h : DigitRun base cs n) : DigitRun base ('0' :: cs) n := by
  have hzero : DigitRun base ['0'] 0 := .one ⟨hb, .inl rfl⟩
  induction h with
  | one hc => simpa using hzero.next hc
  | next _ hc ih => exact ih.next hc
  | group _ hc ih => exact ih.group hc

/-- Nor do zeros up to a width. -/
theorem DigitRun.padLeft {base : Nat} {cs : List Char} {n : Nat} (hb : 0 < base)
    (h : DigitRun base cs n) (width : Nat) : DigitRun base (padLeft width cs) n := by
  unfold SovdConfig.padLeft
  induction width - cs.length with
  | zero => exact h
  | succ k ih => exact ih.zero_cons hb

/-- The decimal digits of a number start with a zero only if they spell zero. -/
theorem toDigits_eq_zero_of_head? {n : Nat} (h : (Nat.toDigits 10 n).head? = some '0') :
    Nat.toDigits 10 n = ['0'] := by
  induction n using Nat.strongRecOn with
  | _ n ih =>
    by_cases hn : n < 10
    · rw [Nat.toDigits_of_lt_base hn] at h ⊢
      simpa using h
    · have hle : 10 ≤ n := Nat.le_of_not_lt hn
      rw [Nat.toDigits_of_base_le (by decide) hle,
        List.head?_append_of_ne_nil _ Nat.toDigits_ne_nil] at h
      have hzero := ih (n / 10) (by omega) h
      -- then all but the last digit spell zero, although the number has two digits
      have hvalue : Nat.ofDigitChars 10 (Nat.toDigits 10 (n / 10)) 0 = 0 := by rw [hzero]; rfl
      rw [Nat.ofDigitChars_toDigits (by decide) (by decide)] at hvalue
      omega

/-- Numbers are written as decimal literals. -/
theorem integerLiteral_decimalText (n : Nat) : IntegerLiteral (decimalText n).toList n := by
  have hdigits : DigitRun 10 (Nat.toDigits 10 n) n := by
    have hkept : ∀ d < 10, IsDigitOf 10 (id (Nat.digitChar d)) d := fun d hd => ⟨hd, .inl rfl⟩
    simpa using digitRun_toDigits (by decide) hkept n
  rw [decimalText, String.toList_ofList]
  exact .unsigned ⟨hdigits, toDigits_eq_zero_of_head?⟩

/-- Numbers after `0x` are written as hexadecimal literals. -/
theorem integerLiteral_hexText (width n : Nat) : IntegerLiteral (hexText width n).toList n := by
  have hupper : ∀ d < 16, IsDigitOf 16 (Nat.digitChar d).toUpper d := fun d hd => ⟨hd, .inr rfl⟩
  have hdigits : DigitRun 16 (hexDigits true n) n := digitRun_toDigits (by decide) hupper n
  rw [hexText, String.toList_ofList]
  exact .hex (hdigits.padLeft (by decide) width)

end SovdConfig.Toml
