import SovdConfig.Number.Power
import SovdConfig.Proofs.Text.Lossy

namespace SovdConfig.Text

/-!
# The order of texts

Texts are ordered by their bytes: the first byte that differs decides.  For digits in equal number
this is the order of the numbers, and for ASCII texts it is the order of the characters.  Main
statements:

* `append_lt_append_iff` — parts of equal length are compared one after the other;
* `lt_iff_ofDigitChars_lt` — digits in equal number are ordered like the numbers they denote;
* `encodeUtf8_lt_iff` — the bytes of ASCII texts are ordered like their characters.
-/

/-- Of two lists that start with parts of equal length, the first parts are compared before what
    follows them. -/
theorem append_lt_append_iff {α : Type} [LT α] {as as' bs bs' : List α}
    (h : as.length = as'.length) :
    as ++ bs < as' ++ bs' ↔ as < as' ∨ as = as' ∧ bs < bs' := by
  induction as generalizing as' with
  | nil =>
    obtain rfl : as' = [] := List.eq_nil_of_length_eq_zero h.symm
    simp
  | cons a as ih =>
    obtain ⟨a', as', rfl⟩ := List.exists_cons_of_length_eq_add_one h.symm
    simp only [List.cons_append, List.cons_lt_cons_iff, List.cons.injEq, ih (Nat.succ.inj h),
      and_or_left, or_assoc, and_assoc]

/-- Characters are ordered by their codes. -/
theorem char_lt_iff {c c' : Char} : c < c' ↔ c.toNat < c'.toNat := Iff.rfl

/-! ### Digits -/

/-- The codes of the digits. -/
theorem toNat_of_isDigit {c : Char} (h : c.isDigit) : 48 ≤ c.toNat ∧ c.toNat ≤ 57 := by
  simpa [Char.isDigit, UInt32.le_iff_toNat_le] using h

/-- The number that starts with a digit: so many units of its place, and what follows. -/
theorem ofDigitChars_cons_eq (c : Char) (cs : List Char) :
    Nat.ofDigitChars 10 (c :: cs) 0 =
      tenPower cs.length * (c.toNat - 48) + Nat.ofDigitChars 10 cs 0 := by
  rw [Nat.ofDigitChars_cons, Nat.ofDigitChars_eq_ofDigitChars_zero, Nat.mul_zero, Nat.zero_add]
  rfl

/-- So many digits denote a number below that power of ten. -/
theorem ofDigitChars_lt {cs : List Char} (h : ∀ c ∈ cs, c.isDigit) :
    Nat.ofDigitChars 10 cs 0 < tenPower cs.length := by
  induction cs with
  | nil => decide
  | cons c cs ih =>
    obtain ⟨hc, hcs⟩ := List.forall_mem_cons.1 h
    have hrest := ih hcs
    have hcode := toNat_of_isDigit hc
    have hfirst : tenPower cs.length * (c.toNat - 48) ≤ tenPower cs.length * 9 :=
      Nat.mul_le_mul_left _ (by omega)
    have hnext : tenPower (c :: cs).length = tenPower cs.length * 10 := rfl
    rw [ofDigitChars_cons_eq, hnext]
    omega

/-- Numbers are compared by their units of a place before what is less than such a unit. -/
theorem mul_add_lt_iff {p d d' r r' : Nat} (h : r < p) (h' : r' < p) :
    p * d + r < p * d' + r' ↔ d < d' ∨ d = d' ∧ r < r' := by
  have hless : ∀ {d d' r r' : Nat}, r < p → d < d' → p * d + r < p * d' + r' := by
    intro d d' r r' hr hd
    calc p * d + r < p * d + p := Nat.add_lt_add_left hr _
      _ = p * (d + 1) := (Nat.mul_succ p d).symm
      _ ≤ p * d' := Nat.mul_le_mul_left p hd
      _ ≤ p * d' + r' := Nat.le_add_right _ _
  rcases Nat.lt_trichotomy d d' with hd | rfl | hd
  · simp [hd, hless h hd]
  · simp
  · have hgreater : p * d' + r' < p * d + r := hless h' hd
    omega

/-- Digits in equal number are ordered like the numbers they denote. -/
theorem lt_iff_ofDigitChars_lt {cs cs' : List Char} (hlength : cs.length = cs'.length)
    (h : ∀ c ∈ cs, c.isDigit) (h' : ∀ c ∈ cs', c.isDigit) :
    cs < cs' ↔ Nat.ofDigitChars 10 cs 0 < Nat.ofDigitChars 10 cs' 0 := by
  induction cs generalizing cs' with
  | nil =>
    obtain rfl : cs' = [] := List.eq_nil_of_length_eq_zero hlength.symm
    simp
  | cons c cs ih =>
    obtain ⟨c', cs', rfl⟩ := List.exists_cons_of_length_eq_add_one hlength.symm
    have hlength : cs.length = cs'.length := Nat.succ.inj hlength
    obtain ⟨hc, hcs⟩ := List.forall_mem_cons.1 h
    obtain ⟨hc', hcs'⟩ := List.forall_mem_cons.1 h'
    -- what follows the first digits is less than a unit of their place
    have hbound' := ofDigitChars_lt hcs'
    rw [← hlength] at hbound'
    rw [ofDigitChars_cons_eq, ofDigitChars_cons_eq, ← hlength,
      mul_add_lt_iff (ofDigitChars_lt hcs) hbound', List.cons_lt_cons_iff, ih hlength hcs hcs',
      char_lt_iff, ← Char.toNat_inj]
    have hcode := toNat_of_isDigit hc
    have hcode' := toNat_of_isDigit hc'
    omega

/-! ### Bytes -/

/-- The bytes of ASCII texts are ordered like their characters. -/
theorem encodeUtf8_lt_iff {cs cs' : List Char} (h : ∀ c ∈ cs, c.toNat < 0x80)
    (h' : ∀ c ∈ cs', c.toNat < 0x80) :
    encodeUtf8 (String.ofList cs) < encodeUtf8 (String.ofList cs') ↔ cs < cs' := by
  induction cs generalizing cs' with
  | nil =>
    cases cs' with
    | nil => simp
    | cons c' cs' =>
      rw [encodeUtf8_cons_ascii (h' c' (by simp))]
      simp [encodeUtf8]
  | cons c cs ih =>
    obtain ⟨hc, hcs⟩ := List.forall_mem_cons.1 h
    cases cs' with
    | nil => simp [encodeUtf8]
    | cons c' cs' =>
      obtain ⟨hc', hcs'⟩ := List.forall_mem_cons.1 h'
      have hrest := ih hcs hcs'
      -- each character is the byte of its code
      rw [encodeUtf8_cons_ascii hc, encodeUtf8_cons_ascii hc', List.cons_lt_cons_iff,
        List.cons_lt_cons_iff, hrest, char_lt_iff, ← Char.toNat_inj, UInt8.lt_iff_toNat_lt,
        ← UInt8.toNat_inj, toNat_ofNat_byte (by omega), toNat_ofNat_byte (by omega)]

end SovdConfig.Text
