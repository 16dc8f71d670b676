import SovdConfig.Number.Decimal
import SovdConfig.Proofs.Number.Numeral

namespace SovdConfig

/-!
# Decimals and doubles

Main statements:

* `Binary64.ofDecimal_eq` — the sign does not change the magnitude that a decimal is read as;
* `Binary64.le_magnitude_ofNat` — numbers from a great power of two on are read as no less;
* `ofDigitChars_append_zeros` — zeros at the end of digits count as powers of ten;
* `positionalText_cases` — what a decimal looks like in positional notation.
-/

namespace Binary64

/-- The sign does not change the magnitude. -/
theorem ofRatio_eq (negative : Bool) (num den : Nat) :
    ofRatio negative num den = ⟨negative, (ofRatio false num den).magnitude⟩ := by
  unfold ofRatio
  split <;> rfl

/-- The sign does not change the magnitude that a decimal is read as. -/
theorem ofDecimal_eq (negative : Bool) (d : Decimal) :
    ofDecimal negative d.digits d.power = ⟨negative, d.toBinary.magnitude⟩ := by
  unfold Decimal.toBinary ofDecimal
  split
  · rfl
  · split
    · rfl
    · split
      · rfl
      · exact ofRatio_eq negative _ _

/-- A number of so many bits has at least the magnitude of their power of two. -/
theorem le_magnitude_ofNat {n : Nat} (hn : 52 ≤ n.log2) :
    min infinite ((n.log2 + 1023) * twoPower 52) ≤ (ofNat n).magnitude := by
  have hne : n ≠ 0 := by
    rintro rfl
    simp at hn
  have hself : twoPower n.log2 ≤ n := Nat.log2_self_le hne
  have hlow : max (-1074) ((n.log2 : Int) - ((1 : Nat).log2 : Int) - 53) = (n.log2 : Int) - 53 := by
    have hone : (1 : Nat).log2 = 0 := by decide
    rw [hone]
    omega
  have hplace : lastPlace n 1 = (n.log2 : Int) - 52 := by
    have hexponent : ((n.log2 : Int) - 53 + 53).toNat = n.log2 ∧
        (-((n.log2 : Int) - 53 + 53)).toNat = 0 := by omega
    rw [lastPlace, hlow]
    simp only [hexponent]
    rw [if_pos (by simpa [twoPower] using hself)]
    omega
  -- the significand has its first bit, which counts as one more exponent
  have hpos : 0 < twoPower (n.log2 - 52) := Nat.pow_pos (by decide)
  have hquotient : twoPower 52 ≤ n / twoPower (n.log2 - 52) := by
    rw [Nat.le_div_iff_mul_le hpos]
    have hpower : twoPower 52 * twoPower (n.log2 - 52) = twoPower n.log2 := by
      simp only [twoPower, Nat.pow_eq]
      rw [← Nat.pow_add]
      congr 1
      omega
    rwa [hpower]
  have hround : n / twoPower (n.log2 - 52) ≤ roundHalfEven n (twoPower (n.log2 - 52)) := by
    simp only [roundHalfEven]
    split
    · exact Nat.le_refl _
    · split <;> omega
  have hexponent : (-((n.log2 : Int) - 52)).toNat = 0 ∧ ((n.log2 : Int) - 52).toNat = n.log2 - 52 ∧
      ((n.log2 : Int) - 52 + 1074).toNat = n.log2 + 1022 := by omega
  rw [ofNat, ofRatio, if_neg hne]
  simp only [hplace, hexponent]
  have hone : twoPower 0 = 1 := rfl
  rw [hone, Nat.mul_one, Nat.one_mul]
  have hsum : (n.log2 + 1023) * twoPower 52 = (n.log2 + 1022) * twoPower 52 + twoPower 52 := by
    rw [← Nat.succ_mul]
  have hsignificand := Nat.le_trans hquotient hround
  have hmagnitude := Nat.add_le_add_left hsignificand ((n.log2 + 1022) * twoPower 52)
  rw [← hsum] at hmagnitude
  exact Nat.le_min.2 ⟨Nat.min_le_left _ _, Nat.le_trans (Nat.min_le_right _ _) hmagnitude⟩

/-- A number that is read as less than this power of two is less. -/
theorem lt_of_magnitude_ofNat_lt {n : Nat}
    (h : (ofNat n).magnitude < (ofNat (twoPower 63)).magnitude) : n < twoPower 63 := by
  refine Nat.lt_of_not_le fun hle => Nat.not_le_of_lt h ?_
  have hlog : 63 ≤ n.log2 := (Nat.le_log2 (by rintro rfl; exact absurd hle (by decide))).2 hle
  have hpower : (ofNat (twoPower 63)).magnitude = (63 + 1023) * twoPower 52 := by decide +kernel
  have hinfinite : (63 + 1023) * twoPower 52 ≤ infinite :=
    Nat.mul_le_mul_right _ (by decide)
  have hexponent : (63 + 1023) * twoPower 52 ≤ (n.log2 + 1023) * twoPower 52 :=
    Nat.mul_le_mul_right _ (Nat.add_le_add_right hlog _)
  rw [hpower]
  exact Nat.le_trans (Nat.le_min.2 ⟨hinfinite, hexponent⟩)
    (le_magnitude_ofNat (Nat.le_trans (by decide) hlog))

end Binary64

/-- Zeros at the end of digits count as powers of ten. -/
theorem ofDigitChars_append_zeros (ds : List Char) (k : Nat) :
    Nat.ofDigitChars 10 (ds ++ List.replicate k '0') 0 = Nat.ofDigitChars 10 ds 0 * tenPower k := by
  induction k with
  | zero => simp [tenPower]
  | succ k ih =>
    have hzero : ∀ m, Nat.ofDigitChars 10 ['0'] m = m * 10 := by
      simp [Nat.ofDigitChars_cons, Nat.mul_comm]
    rw [List.replicate_succ', ← List.append_assoc, Nat.ofDigitChars_append, ih, hzero,
      Nat.mul_assoc]
    rfl

/-- Zeros in front of digits do not count. -/
theorem ofDigitChars_zeros_append (k : Nat) (ds : List Char) :
    Nat.ofDigitChars 10 (List.replicate k '0' ++ ds) 0 = Nat.ofDigitChars 10 ds 0 := by
  induction k with
  | zero => rfl
  | succ k ih => simpa [List.replicate_succ, Nat.ofDigitChars_cons] using ih

/-- In positional notation, a decimal is its digits and zeros, or there are digits on either side of
    a point. -/
theorem positionalText_cases (d : Decimal) :
    let digits := Nat.toDigits 10 d.digits
    let text := positionalText false digits (digits.length + d.power)
    (∃ k : Nat, d.power = k ∧ text = digits ++ List.replicate k '0') ∨
      ∃ whole fraction : List Char, text = whole ++ '.' :: fraction ∧ whole ≠ [] ∧
        (∀ c ∈ whole ++ fraction, c.isDigit = true) ∧
        Nat.ofDigitChars 10 (whole ++ fraction) 0 = d.digits ∧
        -(fraction.length : Int) = d.power := by
  intro digits text
  have hdigits : ∀ c ∈ digits, c.isDigit = true := fun _ =>
    Nat.isDigit_of_mem_toDigits (by decide) (by decide)
  have hvalue : Nat.ofDigitChars 10 digits 0 = d.digits := Nat.ofDigitChars_ten_toDigits
  by_cases hpoint : (digits.length : Int) + d.power ≤ 0
  · -- all digits come after the point
    refine .inr ⟨['0'], List.replicate (-(digits.length + d.power)).toNat '0' ++ digits, ?_,
      by simp, ?_, ?_, ?_⟩
    · simp [text, positionalText, hpoint]
    · intro c hc
      simp only [List.mem_append, List.mem_singleton, List.mem_replicate] at hc
      rcases hc with rfl | ⟨-, rfl⟩ | hc
      · decide
      · decide
      · exact hdigits c hc
    · have hzeros := ofDigitChars_zeros_append ((-(digits.length + d.power)).toNat + 1) digits
      rw [hvalue] at hzeros
      simpa [List.replicate_succ] using hzeros
    · rw [List.length_append, List.length_replicate]
      omega
  · by_cases hlength : digits.length ≤ ((digits.length : Int) + d.power).toNat
    · refine .inl ⟨d.power.toNat, by omega, ?_⟩
      have hzeros : ((digits.length : Int) + d.power).toNat - digits.length = d.power.toNat := by
        omega
      simp [text, positionalText, hpoint, hlength, hzeros]
    · -- the point stands between two digits
      refine .inr ⟨digits.take ((digits.length : Int) + d.power).toNat,
        digits.drop ((digits.length : Int) + d.power).toNat, ?_, ?_, ?_, ?_, ?_⟩
      · simp [text, positionalText, hpoint, hlength]
      · intro hnil
        have hlength := congrArg List.length hnil
        rw [List.length_take, List.length_nil] at hlength
        omega
      · rwa [List.take_append_drop]
      · rwa [List.take_append_drop]
      · rw [List.length_drop]
        omega

/-- A decimal that is a natural number and not too great is read as that number is. -/
theorem Decimal.toBinary_eq_ofNat {d : Decimal} {k : Nat} (hpower : d.power = k)
    (hfinite : d.toBinary.isFinite = true) :
    d.toBinary = Binary64.ofNat (d.digits * tenPower k) := by
  have hone : tenPower 0 = 1 := rfl
  have htoNat : (-(k : Int)).toNat = 0 := by omega
  unfold toBinary Binary64.ofDecimal at hfinite ⊢
  rw [hpower] at hfinite ⊢
  split at hfinite
  · next hzero =>
    rw [if_pos hzero, hzero, Nat.zero_mul]
    rfl
  · next hzero =>
    rw [if_neg hzero]
    split at hfinite
    · exact absurd hfinite (by decide)
    · next hgreat =>
      rw [if_neg hgreat, if_neg (by omega), htoNat, hone, Int.toNat_natCast]
      rfl

end SovdConfig
