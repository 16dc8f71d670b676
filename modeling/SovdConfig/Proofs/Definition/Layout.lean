import SovdConfig.Definition.Document
import SovdConfig.Definition.Reader
import SovdConfig.Proofs.Number.Decimal
import SovdConfig.Proofs.Yaml.Block
import SovdConfig.Proofs.Yaml.Decoding
import SovdConfig.Proofs.Yaml.Scalar

namespace SovdConfig

/-!
# Lengths and conversions as text

Main definitions:

* `Binary64.IsReadable` — the doubles whose plain text can be read back;
* `Binary64.PlainShape` — what such a text looks like.

Main statements:

* `ValueLayout.ofText_decimalText` — lengths are read back;
* `ValueLayout.double?_text` — so are doubles.
-/

open Yaml

/-- What fits into some bits fits into more. -/
theorem fitsUnsigned_mono {bits bits' n : Nat} (hbits : bits ≤ bits')
    (h : fitsUnsigned bits n = true) : fitsUnsigned bits' n = true :=
  decide_eq_true (Nat.lt_of_lt_of_le (of_decide_eq_true h)
    (Nat.pow_le_pow_right (by decide) hbits))

/-! ### The text of a double -/

namespace Binary64

/-- Whether a double is finite, below 2^63 and not negative zero, and its shortest decimal is read
    as the double. -/
structure IsReadable (x : Binary64) : Prop where
  notNegativeZero : x ≠ ⟨true, 0⟩
  below : x.magnitude < (ofNat (twoPower 63)).magnitude
  readsBack : (Decimal.shortest .up x).toBinary.magnitude = x.magnitude

instance (x : Binary64) : Decidable x.IsReadable :=
  decidable_of_iff (x ≠ ⟨true, 0⟩ ∧ x.magnitude < (ofNat (twoPower 63)).magnitude ∧
    (Decimal.shortest .up x).toBinary.magnitude = x.magnitude)
    ⟨fun ⟨h, h', h''⟩ => ⟨h, h', h''⟩, fun ⟨h, h', h''⟩ => ⟨h, h', h''⟩⟩

/-- What the text of a double's absolute value looks like: the digits of a natural number of 63
    bits, or digits on either side of a point. -/
inductive PlainShape (x : Binary64) : List Char → Prop
  | integral {ds : List Char} {n : Nat} :
    Plain.IsUnpadded ds → Nat.ofDigitChars 10 ds 0 = n → n < twoPower 63 →
    (x.negative = true → n ≠ 0) → (ofNat n).magnitude = x.magnitude → PlainShape x ds
  | pointed {whole fraction : List Char} :
    whole ≠ [] → (∀ c ∈ whole ++ fraction, c.isDigit = true) →
    ofDecimal x.negative (Nat.ofDigitChars 10 (whole ++ fraction) 0)
      (-(fraction.length : Int)) = x →
    PlainShape x (whole ++ '.' :: fraction)

variable {x : Binary64}

namespace IsReadable

/-- A readable double is finite. -/
theorem isFinite (h : x.IsReadable) : x.isFinite = true := by
  have hbound : (ofNat (twoPower 63)).magnitude < infinite := by decide +kernel
  simpa [Binary64.isFinite] using Nat.lt_trans h.below hbound

/-- The text of a readable double is a minus sign or none, and its absolute value. -/
theorem toList_text (h : x.IsReadable) : (x.text .plain).toList =
    (if x.negative then ['-'] else []) ++ DecimalNotation.plain.absText x := by
  have hnumber : x.isNaN = false := by
    have hfinite := h.isFinite
    simp only [Binary64.isFinite, isNaN, decide_eq_true_eq, decide_eq_false_iff_not] at hfinite ⊢
    omega
  simp [text, hnumber, h.isFinite]

/-- Zero has no sign. -/
theorem negative_of_magnitude (h : x.IsReadable) (hzero : x.magnitude = 0) :
    x.negative = false := by
  obtain ⟨negative, magnitude⟩ := x
  cases negative with
  | false => rfl
  | true => exact absurd (congrArg (Binary64.mk true) hzero) h.notNegativeZero

/-- The shortest decimal of a readable double other than zero has a digit that counts. -/
theorem digits_ne_zero (h : x.IsReadable) (hzero : x.magnitude ≠ 0) :
    (Decimal.shortest .up x).digits ≠ 0 := by
  intro hdigits
  have hread := h.readsBack
  rw [Decimal.toBinary, ofDecimal, if_pos hdigits] at hread
  exact hzero hread.symm

/-- What the absolute value of a readable double looks like. -/
theorem plainShape (h : x.IsReadable) : x.PlainShape (DecimalNotation.plain.absText x) := by
  by_cases hzero : x.magnitude = 0
  · have htext : DecimalNotation.plain.absText x = ['0'] := by
      simp [DecimalNotation.absText, hzero, DecimalNotation.plain]
    rw [htext]
    refine .integral (n := 0) ⟨by decide, by decide, fun _ => rfl⟩ (by decide) (by decide)
      (fun hsign => ?_) hzero.symm
    rw [h.negative_of_magnitude hzero] at hsign
    exact absurd hsign (by decide)
  · have htext : DecimalNotation.plain.absText x =
        positionalText false (Nat.toDigits 10 (Decimal.shortest .up x).digits)
          ((Nat.toDigits 10 (Decimal.shortest .up x).digits).length +
            (Decimal.shortest .up x).power) := by
      simp [DecimalNotation.absText, hzero, DecimalNotation.plain]
    have hread := h.readsBack
    have hdigits := h.digits_ne_zero hzero
    rw [htext]
    -- the digits are those of an integer, or the point stands among them
    rcases positionalText_cases (Decimal.shortest .up x) with
      ⟨k, hpower, htext⟩ | ⟨whole, fraction, htext, hne, hcs, hvalue, hpower⟩
    · have hfinite : (Decimal.shortest .up x).toBinary.isFinite = true := by
        have hfinite := h.isFinite
        rwa [Binary64.isFinite, ← hread] at hfinite
      have hn := Decimal.toBinary_eq_ofNat hpower hfinite
      have hbelow := h.below
      rw [← hread, hn] at hbelow
      rw [htext]
      refine .integral ⟨by simp [Nat.toDigits_ne_nil], ?_, fun hhead => ?_⟩ ?_
        (lt_of_magnitude_ofNat_lt hbelow) (fun _ => ?_) (by rw [← hn, hread])
      · intro c hc
        rcases List.mem_append.1 hc with hc | hc
        · exact Nat.isDigit_of_mem_toDigits (by decide) (by decide) hc
        · rw [(List.mem_replicate.1 hc).2]
          rfl
      · -- the first digit counts
        rw [List.head?_append_of_ne_nil _ Nat.toDigits_ne_nil] at hhead
        have hten := Toml.toDigits_eq_zero_of_head? hhead
        rw [← Nat.ofDigitChars_ten_toDigits (n := (Decimal.shortest .up x).digits), hten] at hdigits
        exact absurd rfl hdigits
      · rw [ofDigitChars_append_zeros, Nat.ofDigitChars_ten_toDigits]
      · exact Nat.mul_ne_zero hdigits (Nat.ne_of_gt (Nat.pow_pos (by decide)))
    · rw [htext]
      refine .pointed hne hcs ?_
      rw [hvalue, hpower, ofDecimal_eq, hread]

/-- The text of a readable double is a plain scalar. -/
theorem isPlain_text (h : x.IsReadable) : IsPlain (x.text .plain).toList := by
  have hdigit : ∃ c cs, DecimalNotation.plain.absText x = c :: cs ∧ c.isDigit = true := by
    have hshape := h.plainShape
    generalize DecimalNotation.plain.absText x = cs at hshape
    cases hshape with
    | integral hcs =>
      obtain ⟨c, cs, rfl⟩ := List.exists_cons_of_ne_nil hcs.1
      exact ⟨c, cs, rfl, hcs.2.1 c (by simp)⟩
    | pointed hne hcs =>
      obtain ⟨c, cs, rfl⟩ := List.exists_cons_of_ne_nil hne
      exact ⟨c, _, rfl, hcs c (by simp)⟩
  obtain ⟨c, cs, hcs, hc⟩ := hdigit
  have halphanum : c.isAlphanum = true := by simp [Char.isAlphanum, hc]
  have hword : ∀ d ∈ (x.text .plain).toList, isSpace d = false ∧ d ≠ ':' ∧ d ≠ '#' := by
    intro d hd
    rcases Binary64.mem_text hd with hd | hd
    · exact isWord_of_isAlphanum (by simp [Char.isAlphanum, hd])
    · have hmarks : ∀ d ∈ ['.', 'e', '-', '+', 'N', 'a', 'i', 'n', 'f'],
          isSpace d = false ∧ d ≠ ':' ∧ d ≠ '#' := by decide
      exact hmarks d hd
  rw [h.toList_text, hcs] at hword ⊢
  revert hword
  cases x.negative with
  | false =>
    intro hword
    exact .ofWord ⟨by simp, hword⟩ ⟨c, cs, rfl, .inl halphanum⟩
  | true =>
    intro hword
    have hnext := (isWord_of_isAlphanum halphanum).1
    exact .ofWord ⟨by simp, hword⟩ ⟨'-', c :: cs, rfl, .inr ⟨rfl, hnext⟩⟩

end IsReadable

end Binary64

namespace ValueLayout

/-! ### Reading lengths and doubles -/

/-- A natural number written in decimal has unpadded digits. -/
theorem isUnpadded_toDigits (n : Nat) : Plain.IsUnpadded (Nat.toDigits 10 n) :=
  ⟨Nat.toDigits_ne_nil, fun _ => Nat.isDigit_of_mem_toDigits (by decide) (by decide),
    Toml.toDigits_eq_zero_of_head?⟩

/-- A natural number of 64 bits is data. -/
theorem isData_natural {n : Nat} (hn : n < twoPower 64) : Spot.IsData (.natural n) := by
  intro what
  simp [Plain.found, fitsUnsigned, hn]

/-- A number of 63 bits fits after a minus sign. -/
theorem fitsSigned_neg {bits n : Nat} (hbits : 64 ≤ bits) (hn : n < twoPower 63) :
    fitsSigned bits (-(n : Int)) = true := by
  have hle : twoPower 63 ≤ twoPower (bits - 1) := Nat.pow_le_pow_right (by decide) (by omega)
  have hlt := Nat.lt_of_lt_of_le hn hle
  simp only [fitsSigned, Bool.and_eq_true, decide_eq_true_eq]
  omega

/-- A negative number of 63 bits is data. -/
theorem isData_signed {n : Nat} (hn : n < twoPower 63) : Spot.IsData (.signed (-(n : Int))) := by
  intro what
  simp [Plain.found, fitsSigned_neg (Nat.le_refl 64) hn]

/-- A length is read back. -/
theorem ofText_decimalText (n : UInt64) :
    Plain.ofText (decimalText n.toNat) = .natural n.toNat := by
  have hlist : (decimalText n.toNat).toList = Nat.toDigits 10 n.toNat := by
    rw [decimalText, String.toList_ofList]
  have hfits : n.toNat < twoPower 128 := Nat.lt_trans n.toNat_lt (by decide)
  refine Plain.ofText_digits ?_ ?_ (by simpa [fitsUnsigned] using hfits)
  · rw [hlist]
    exact isUnpadded_toDigits _
  · rw [hlist, Nat.ofDigitChars_ten_toDigits]

/-- A readable double is read back from its plain text. -/
theorem double?_text {x : Binary64} (h : x.IsReadable) :
    Spot.IsData (Plain.ofText (x.text .plain)) ∧
      double? (.plain (Plain.ofText (x.text .plain))) = some x := by
  have htext := h.toList_text
  have hshape := h.plainShape
  generalize DecimalNotation.plain.absText x = cs at htext hshape
  cases hshape with
  | @integral _ n hcs hvalue hn hsign hmagnitude =>
    have hfits : n < twoPower 64 := Nat.lt_trans hn (by decide)
    cases hnegative : x.negative with
    | false =>
      simp only [hnegative] at htext
      -- without a point the number is read as an integer, which is the same number
      have hread : Plain.ofText (x.text .plain) = .natural n :=
        Plain.ofText_digits (by rw [htext]; exact hcs) (by rw [htext]; exact hvalue)
          (by simpa [fitsUnsigned] using Nat.lt_trans hfits (by decide))
      rw [hread]
      refine ⟨isData_natural hfits, ?_⟩
      rw [double?, Binary64.ofNat, Binary64.ofRatio_eq, ← Binary64.ofNat, hmagnitude, ← hnegative]
    | true =>
      simp only [hnegative] at htext
      have hread : Plain.ofText (x.text .plain) = .signed (-(n : Int)) :=
        Plain.ofText_minus htext hcs hvalue (fitsSigned_neg (by decide) hn)
      have hneg : decide (-(n : Int) < 0) = true := by
        have hpos := hsign hnegative
        simp only [decide_eq_true_eq]
        omega
      rw [hread]
      refine ⟨isData_signed hn, ?_⟩
      rw [double?, hneg, Int.natAbs_neg, Int.natAbs_natCast, Binary64.ofRatio_eq, ← Binary64.ofNat,
        hmagnitude, ← hnegative]
  | pointed hne hcs hvalue =>
    have hread : Plain.ofText (x.text .plain) = .double x := by
      refine Plain.ofText_point htext hne (fun c hc => hcs c (by simp [hc]))
        (fun c hc => hcs c (by simp [hc])) ?_ h.isFinite
      rw [Numeral.valueOf_eq_ofDigitChars, hvalue]
    rw [hread]
    exact ⟨fun what => by simp [Plain.found], rfl⟩

end ValueLayout

end SovdConfig
