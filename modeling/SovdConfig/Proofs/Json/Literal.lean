import SovdConfig.Json.Reader
import SovdConfig.Proofs.Attempt
import SovdConfig.Proofs.Json.Grammar
import SovdConfig.Proofs.Number.Numeral

namespace SovdConfig.Json

/-!
# Reading numbers

A number of the grammar is read up to the first character that cannot go on with it.  Main
statements:

* `readNumber_append` — it is read as the number that stands for its literal, and refused if there
  is none;
* `skipNumber_append` — it is passed over whatever stands for it;
* `Literal.number?_ofInt` — the literal of an integer of 64 bits stands for that integer.
-/

open Numeral (valueOf digitValue spanDigits spanDigits_append ne_of_isDigit)

/-! ### What follows a value -/

/-- Whether a value may end here: at blank space, at the punctuation of a container, or at the end
    of the text. -/
def EndsValue (rest : List Char) : Prop :=
  ∀ c ∈ rest.head?, c = ' ' ∨ c = '\t' ∨ c = '\n' ∨ c = '\r' ∨ c = ',' ∨ c = ']' ∨ c = '\x7d'

/-- No number goes on where a value may end. -/
theorem EndsValue.head?_ne {rest : List Char} (h : EndsValue rest) :
    (∀ c ∈ rest.head?, c.isDigit = false) ∧ rest.head? ≠ some '.' ∧
      startsExponent rest = false := by
  rcases rest with - | ⟨c, rest⟩
  · simp [startsExponent]
  · rcases h c rfl with rfl | rfl | rfl | rfl | rfl | rfl | rfl <;> simp [startsExponent]

/-! ### Digits -/

/-- Digits are a first one and others. -/
theorem IsDigitText.exists_cons {digits : List Char} (h : IsDigitText digits) :
    ∃ c rest, digits = c :: rest ∧ c.isDigit ∧ ∀ d ∈ rest, d.isDigit := by
  obtain ⟨c, rest, rfl⟩ := List.exists_cons_of_ne_nil h.1
  exact ⟨c, rest, rfl, h.2 c (by simp), fun d hd => h.2 d (by simp [hd])⟩

/-- More digits do not make a number smaller. -/
theorem le_foldl_digits (n : Nat) (digits : List Char) :
    n ≤ digits.foldl (fun n c => 10 * n + digitValue c) n := by
  induction digits generalizing n with
  | nil => exact Nat.le_refl n
  | cons c rest ih =>
    rw [List.foldl_cons]
    exact Nat.le_trans (by omega) (ih _)

/-- Digits pass the limit exactly if their number does. -/
theorem digitsToPass_isSome (n : Nat) (digits : List Char) (hn : n ≤ exponentLimit) :
    (digitsToPass n digits).isSome =
      decide (exponentLimit < digits.foldl (fun n c => 10 * n + digitValue c) n) := by
  induction digits generalizing n with
  | nil => simp [digitsToPass, Nat.not_lt_of_le hn]
  | cons c rest ih =>
    rw [digitsToPass, List.foldl_cons]
    split
    · next hpass =>
      have hle := le_foldl_digits (10 * n + digitValue c) rest
      simpa using Nat.lt_of_lt_of_le hpass hle
    · next hpass =>
      rw [Option.isSome_map, ih _ (Nat.le_of_not_lt hpass)]

/-! ### The parts of a number -/

/-- A scaled number is read as its double, if that is finite. -/
theorem toOption_doubleOf (negative : Bool) (n : Nat) (power : Int) (rest : List Char) :
    (doubleOf negative n power rest).toOption =
      (Literal.doubleOf? negative n power).map (·, rest) := by
  unfold doubleOf Literal.doubleOf?
  cases scale? (Binary64.ofNat n) power <;> rfl

/-- The sign of a power of ten is taken off its digits. -/
theorem exponentSign_append {sign : List Char} {down : Bool} (h : SignText sign down)
    {c : Char} (hc : c.isDigit) (rest : List Char) :
    exponentSign (sign ++ c :: rest) = (down, c :: rest) := by
  have hmarks := ne_of_isDigit hc
  cases h with
  | none =>
    rw [List.nil_append]
    unfold exponentSign
    split
    · next heq => exact absurd (List.cons.inj heq).1 hmarks.1
    · next heq => exact absurd (List.cons.inj heq).1 hmarks.2.1
    · rfl
  | plus => rfl
  | minus => rfl

/-- The number that a power of ten, given by its sign and digits, makes of the digits before it. -/
def powered? (negative : Bool) (n : Nat) (place : Int) (down : Bool) (digits : List Char) :
    Option JsonNumber :=
  if exponentLimit < valueOf digits then
    if n ≠ 0 ∧ !down then none else some (.double ⟨negative, 0⟩)
  else
    Literal.doubleOf? negative n (if down then place - valueOf digits else place + valueOf digits)

/-- A power of ten is read after its letter. -/
theorem readExponent_append {sign digits rest : List Char} {down : Bool}
    (hsign : SignText sign down) (h : IsDigitText digits) (hrest : EndsValue rest)
    (negative : Bool) (n : Nat) (place : Int) :
    (readExponent negative n place (sign ++ (digits ++ rest))).toOption =
      (powered? negative n place down digits).map (·, rest) := by
  obtain ⟨c, tail, rfl, hc, htail⟩ := h.exists_cons
  have hspan := spanDigits_append h.2 hrest.head?_ne.1
  have hpass := digitsToPass_isSome 0 (c :: tail) (Nat.zero_le _)
  simp only [readExponent, List.cons_append, exponentSign_append hsign hc]
  rw [← List.cons_append, hspan]
  unfold powered?
  rcases hcount : digitsToPass 0 (c :: tail) with - | count
  · rw [hcount] at hpass
    have hlimit : ¬ exponentLimit < valueOf (c :: tail) := by simpa [valueOf] using hpass
    simp only [hlimit, if_false]
    exact toOption_doubleOf _ _ _ _
  · rw [hcount] at hpass
    have hlimit : exponentLimit < valueOf (c :: tail) := by simpa [valueOf] using hpass
    simp only [hlimit, if_true]
    split <;> rfl

/-- A fraction that is there is read after its point, with the power of ten that may follow. -/
theorem readFraction_append {digits power rest : List Char} {exponent : Option (Bool × List Char)}
    (h : IsDigitText digits) (hpower : ExponentText power exponent) (hrest : EndsValue rest)
    (negative : Bool) (n : Nat) (place : Int) :
    (readFraction negative n place (digits ++ (power ++ rest))).toOption =
      (match exponent with
        | none => Literal.doubleOf? negative (keepDigits n digits).1
            (place - ((digits.length - (keepDigits n digits).2.length : Nat) : Int))
        | some (down, ds) => powered? negative (keepDigits n digits).1
            (place - ((digits.length - (keepDigits n digits).2.length : Nat) : Int)) down ds).map
          (·, rest) := by
  obtain ⟨c, tail, rfl, hc, htail⟩ := h.exists_cons
  cases hpower with
  | none =>
    have hspan := spanDigits_append h.2 hrest.head?_ne.1
    simp only [readFraction, List.nil_append, hspan, hrest.head?_ne.2.2]
    exact toOption_doubleOf _ _ _ _
  | @some mark sign ds down hmark hsign hds =>
    have hstop : ∀ d ∈ ((mark :: (sign ++ ds)) ++ rest).head?, d.isDigit = false := by
      rcases hmark with rfl | rfl <;> simp
    have hstart : startsExponent ((mark :: (sign ++ ds)) ++ rest) = true := by
      rcases hmark with rfl | rfl <;> rfl
    have hspan := spanDigits_append h.2 hstop
    simp only [readFraction, hspan, hstart, if_true]
    simpa using readExponent_append hsign hds hrest negative _ _

/-- All that is kept of digits one after the other. -/
theorem Literal.number?_eq (l : Literal) :
    l.number? =
      if l.isInteger then some (Literal.integerOf l.negative l.kept)
      else match l.exponent with
        | none => Literal.doubleOf? l.negative l.kept l.place
        | some (down, digits) => powered? l.negative l.kept l.place down digits := by
  unfold Literal.number? powered?
  rfl

/-- What follows the whole part of a number is read with it. -/
theorem readAfterWhole_append (whole : List Char) {point fraction power rest : List Char}
    {exponent : Option (Bool × List Char)} (hfraction : FractionText point fraction)
    (hpower : ExponentText power exponent) (hrest : EndsValue rest) (negative : Bool) :
    (readAfterWhole negative (keepDigits 0 whole).1 (keepDigits 0 whole).2.length
        (point ++ (power ++ rest))).toOption =
      (Literal.number? ⟨negative, whole, fraction, exponent⟩).map (·, rest) := by
  rw [Literal.number?_eq]
  cases hfraction with
  | some h =>
    have hread := readFraction_append h hpower hrest negative (keepDigits 0 whole).1
      (keepDigits 0 whole).2.length
    have hinteger : Literal.isInteger ⟨negative, whole, fraction, exponent⟩ = false := by
      simp [Literal.isInteger, h.1]
    simpa [readAfterWhole, hinteger, Literal.kept, Literal.place] using hread
  | none =>
    cases hpower with
    | @some mark sign ds down hmark hsign hds =>
      have hread := readExponent_append hsign hds hrest negative (keepDigits 0 whole).1
        (keepDigits 0 whole).2.length
      rcases hmark with rfl | rfl <;>
        simpa [readAfterWhole, startsExponent, Literal.isInteger, Literal.kept, Literal.place,
          keepDigits] using hread
    | none =>
      have hexponent := hrest.head?_ne.2.2
      have hpoint := hrest.head?_ne.2.1
      simp only [List.nil_append]
      unfold readAfterWhole
      split
      · next heq => simp at hpoint
      · simp only [hexponent, Bool.false_eq_true, if_false]
        -- an integer of which digits had to be dropped becomes a double
        by_cases hdropped : (keepDigits 0 whole).2 = []
        · simp only [Literal.isInteger, Literal.kept, Literal.integerOf, keepDigits, hdropped,
            List.length_nil, ne_eq, not_true_eq_false, if_false, List.isEmpty_nil,
            Option.isNone_none, Bool.and_self, if_true]
          cases negative with
          | false => rfl
          | true =>
            by_cases hrange : (keepDigits 0 whole).1 = 0 ∨ twoPower 63 < (keepDigits 0 whole).1 <;>
              simp only [hrange, Bool.not_true, Bool.false_eq_true, if_false, if_true] <;> rfl
        · have hlength : (keepDigits 0 whole).2.length ≠ 0 := by simpa using hdropped
          have hscaled := toOption_doubleOf negative (keepDigits 0 whole).1
            (keepDigits 0 whole).2.length rest
          simpa [hlength, hdropped, Literal.isInteger, Literal.kept, Literal.place, keepDigits]
            using hscaled

/-- What follows the fraction is no digit and no further point. -/
theorem head?_append_of_exponentText {power rest : List Char} {exponent : Option (Bool × List Char)}
    (h : ExponentText power exponent) (hrest : EndsValue rest) :
    (∀ c ∈ (power ++ rest).head?, c.isDigit = false) ∧ (power ++ rest).head? ≠ some '.' := by
  cases h with
  | none => exact ⟨hrest.head?_ne.1, hrest.head?_ne.2.1⟩
  | some hmark _ _ => rcases hmark with rfl | rfl <;> simp

/-- Neither does a digit follow the whole part. -/
theorem isDigit_eq_false_of_mem_head? {point fraction power rest : List Char}
    {exponent : Option (Bool × List Char)} (hfraction : FractionText point fraction)
    (hpower : ExponentText power exponent) (hrest : EndsValue rest) :
    ∀ c ∈ (point ++ (power ++ rest)).head?, c.isDigit = false := by
  cases hfraction with
  | none => exact (head?_append_of_exponentText hpower hrest).1
  | some h => simp

/-- A number is read after its sign as the number that stands for it. -/
theorem readNumber_append {whole point fraction power rest : List Char}
    {exponent : Option (Bool × List Char)} (h : IsDigitText whole)
    (hzero : whole.head? = some '0' → whole = ['0']) (hfraction : FractionText point fraction)
    (hpower : ExponentText power exponent) (hrest : EndsValue rest) (negative : Bool) :
    (readNumber negative (whole ++ (point ++ (power ++ rest)))).toOption =
      (Literal.number? ⟨negative, whole, fraction, exponent⟩).map (·, rest) := by
  have hread := readAfterWhole_append whole hfraction hpower hrest negative
  have hstop := isDigit_eq_false_of_mem_head? hfraction hpower hrest
  obtain ⟨c, tail, rfl, hc, htail⟩ := h.exists_cons
  by_cases hc0 : c = '0'
  · obtain rfl : tail = [] := by simpa [hc0] using hzero (by simp [hc0])
    subst hc0
    rcases hafter : point ++ (power ++ rest) with - | ⟨d, after⟩
    · rw [hafter] at hread
      simpa [readNumber, keepDigits, digitValue, integerLimit] using hread
    · rw [hafter] at hread hstop
      have hd : d.isDigit = false := hstop d rfl
      simpa [readNumber, hd, keepDigits, digitValue, integerLimit] using hread
  · have hspan := spanDigits_append h.2 hstop
    simp only [readNumber, List.cons_append, hc0, hc, if_false, if_true]
    rw [← List.cons_append, hspan]
    exact hread

/-! ### Numbers that are not wanted -/

/-- A power of ten that is not wanted is passed over. -/
theorem skipExponent_append {sign digits rest : List Char} {down : Bool}
    (hsign : SignText sign down) (h : IsDigitText digits) (hrest : EndsValue rest) :
    skipExponent (sign ++ (digits ++ rest)) = .ok rest := by
  obtain ⟨c, tail, rfl, hc, htail⟩ := h.exists_cons
  have hspan := spanDigits_append h.2 hrest.head?_ne.1
  simp only [skipExponent, List.cons_append, exponentSign_append hsign hc]
  rw [← List.cons_append, hspan]

/-- So are a fraction and a power of ten that are not wanted. -/
theorem skipFraction_append {point fraction power rest : List Char}
    {exponent : Option (Bool × List Char)} (hfraction : FractionText point fraction)
    (hpower : ExponentText power exponent) (hrest : EndsValue rest) :
    ∀ {cs : List Char}, cs = point ++ (power ++ rest) → (match cs with
      | '.' :: rest =>
        match spanDigits rest with
        | ([], _) => .error (.after .badNumber rest)
        | (_ :: _, tail) => if startsExponent tail then skipExponent tail.tail else .ok tail
      | _ => if startsExponent cs then skipExponent cs.tail else .ok cs :
        Except Failure (List Char)) = .ok rest := by
  have hexponent := hrest.head?_ne.2.2
  have hstop := head?_append_of_exponentText hpower hrest
  -- the power of ten comes last, with or without a fraction before it
  have hpowered : (if startsExponent (power ++ rest) then skipExponent (power ++ rest).tail
      else .ok (power ++ rest)) = .ok rest := by
    cases hpower with
    | none => simp [hexponent]
    | @some mark sign ds down hmark hsign hds =>
      have hskip := skipExponent_append hsign hds hrest
      rcases hmark with rfl | rfl <;> simpa [startsExponent] using hskip
  rintro cs rfl
  cases hfraction with
  | none =>
    split
    · next heq => exact absurd (congrArg List.head? heq) hstop.2
    · exact hpowered
  | some hdigits =>
    obtain ⟨c, tail, rfl, hc, htail⟩ := hdigits.exists_cons
    have hspan := spanDigits_append hdigits.2 hstop.1
    simp only [List.cons_append] at hspan ⊢
    simp only [hspan]
    exact hpowered

/-- So is a number that is not wanted, after its sign. -/
theorem skipNumber_append {whole point fraction power rest : List Char}
    {exponent : Option (Bool × List Char)} (h : IsDigitText whole)
    (hzero : whole.head? = some '0' → whole = ['0']) (hfraction : FractionText point fraction)
    (hpower : ExponentText power exponent) (hrest : EndsValue rest) :
    skipNumber (whole ++ (point ++ (power ++ rest))) = .ok rest := by
  have hdigit := isDigit_eq_false_of_mem_head? hfraction hpower hrest
  obtain ⟨c, tail, rfl, hc, htail⟩ := h.exists_cons
  by_cases hc0 : c = '0'
  · obtain rfl : tail = [] := by simpa [hc0] using hzero (by simp [hc0])
    subst hc0
    rcases hcs : point ++ (power ++ rest) with - | ⟨d, after⟩
    · simpa [skipNumber, hcs] using skipFraction_append hfraction hpower hrest rfl
    · have hd : d.isDigit = false := hdigit d (by simp [hcs])
      simp only [skipNumber, List.cons_append, List.nil_append, hd, Bool.false_eq_true,
        if_true, if_false, ok_bind]
      exact skipFraction_append hfraction hpower hrest hcs.symm
  · have hspan := spanDigits_append h.2 hdigit
    simp only [skipNumber, List.cons_append, hc0, hc, if_false, if_true]
    rw [← List.cons_append, hspan]
    exact skipFraction_append hfraction hpower hrest rfl

/-! ### Integers -/

/-- The literal of an integer in decimal. -/
def Literal.ofInt (n : Int) : Literal := ⟨n < 0, Nat.toDigits 10 n.natAbs, [], none⟩

/-- Digits are all kept if they denote a number within the limit. -/
theorem keepDigits_eq {ds : List Char} {n : Nat}
    (h : Nat.ofDigitChars 10 ds n ≤ integerLimit) :
    keepDigits n ds = (Nat.ofDigitChars 10 ds n, []) := by
  induction ds generalizing n with
  | nil => simp [keepDigits]
  | cons c ds ih =>
    rw [Nat.ofDigitChars_cons] at h ⊢
    have hle : 10 * n + Numeral.digitValue c ≤ integerLimit :=
      Nat.le_trans (le_ofDigitChars ds _) h
    rw [keepDigits]
    exact (if_pos hle).trans (ih h)

/-- The literal of an integer of 64 bits stands for that integer. -/
theorem Literal.number?_ofInt {n : Int} (hn : fitsSigned 64 n) :
    (ofInt n).number? = some (.integer n) := by
  have hpower : twoPower 63 = 9223372036854775808 := rfl
  have hlimit : integerLimit = 18446744073709551615 := rfl
  obtain ⟨hlow, hhigh⟩ : -(9223372036854775808 : Int) ≤ n ∧ n < 9223372036854775808 := by
    simpa [fitsSigned, hpower] using hn
  have hkept : keepDigits 0 (Nat.toDigits 10 n.natAbs) = (n.natAbs, []) := by
    rw [keepDigits_eq] <;> rw [Nat.ofDigitChars_ten_toDigits]
    omega
  have hinteger : (ofInt n).isInteger := by simp [isInteger, ofInt, hkept]
  have hvalue : (ofInt n).kept = n.natAbs := by simp [kept, ofInt, keepDigits, hkept]
  rw [number?, if_pos hinteger, hvalue, ofInt, integerOf]
  by_cases hneg : n < 0
  · have hrange : ¬ (n.natAbs = 0 ∨ twoPower 63 < n.natAbs) := by omega
    rw [if_neg (by simpa using hneg), if_neg hrange]
    congr
    omega
  · rw [if_pos (by simpa using hneg)]
    congr
    omega

end SovdConfig.Json
