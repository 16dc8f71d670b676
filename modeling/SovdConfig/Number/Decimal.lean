import SovdConfig.Number.Binary64

namespace SovdConfig

/-!
# Decimal text of doubles

The shortest decimal that reads back as a given double, and the notations in which it is written.
Main definitions:

* `Decimal.shortest` — fewest digits first, then nearest to the double;
* `DecimalNotation` — how the digits are laid out as text;
* `Binary64.text` — the text of a double in a notation.

If a point of a decimal grid lies among the reals that round to the double, then so does one of the
double's two neighbours on that grid; so trying these two for 1, 2, … 17 digits finds the fewest.
-/

/-- The number `digits · 10 ^ power`. -/
structure Decimal where
  digits : Nat
  power : Int
deriving DecidableEq, Repr

/-- Which of two equally near decimals is taken. -/
inductive DecimalTie
  | up
  | even
deriving DecidableEq, Repr

namespace Decimal

/-- The double nearest to the decimal. -/
def toBinary (d : Decimal) : Binary64 := Binary64.ofDecimal false d.digits d.power

/-- The least power of ten above the fraction, sought among the four that its size in bits
    allows. -/
def powerAbove (num den : Nat) : Int :=
  -- a binary digit is worth 0.30103 decimal ones
  let guess := (((num.log2 : Int) - (den.log2 : Int)) * 30103).fdiv 100000
  let isAbove (p : Int) : Bool := decide (num * tenPower (-p).toNat < den * tenPower p.toNat)
  if isAbove (guess - 1) then guess - 1
  else if isAbove guess then guess
  else if isAbove (guess + 1) then guess + 1
  else guess + 2

/-- Whether the point `num / den` of a grid is taken upwards; a tie goes as `tie` says. -/
def roundsUp (tie : DecimalTie) (num den : Nat) : Bool :=
  match compare (2 * (num % den)) den with
  | .lt => false
  | .gt => true
  | .eq => match tie with
    | .up => true
    | .even => num / den % 2 == 1

/-- Of the two neighbours of the double on the grid of the given power of ten, the one that reads
    back as the double; the nearer one if both do. -/
def onGrid? (tie : DecimalTie) (x : Binary64) (power : Int) : Option Decimal :=
  let num := x.numerator * tenPower (-power).toNat
  let den := x.denominator * tenPower power.toNat
  let below : Decimal := ⟨num / den, power⟩
  let above : Decimal := ⟨num / den + 1, power⟩
  if below.toBinary.magnitude = x.magnitude then
    if above.toBinary.magnitude = x.magnitude ∧ roundsUp tie num den then some above
    else some below
  else if above.toBinary.magnitude = x.magnitude then some above
  else none

/-- The decimal without trailing zeros, one division at a time. -/
def trim : Nat → Decimal → Decimal
  | 0, d => d
  | n + 1, d =>
    if d.digits ≠ 0 ∧ d.digits % 10 = 0 then trim n ⟨d.digits / 10, d.power + 1⟩ else d

/-- The shortest decimal that reads back as the absolute value of a finite double. -/
def shortest (tie : DecimalTie) (x : Binary64) : Decimal :=
  if x.magnitude = 0 then ⟨0, 0⟩
  else
    let top := powerAbove x.numerator x.denominator
    -- one digit first, then one more each time
    match (List.range 17).findSome? fun (n : Nat) => onGrid? tie x (top - 1 - (n : Int)) with
    | some d => trim 20 d
    | none => ⟨0, 0⟩

end Decimal

/-- How a decimal is written: which powers of ten of the leading digit are written in positional
    notation (`none` for all), whether an integral value keeps a `.0`, and which of two equally
    near decimals is taken. -/
structure DecimalNotation where
  positional : Option (Int × Int)
  pointKept : Bool
  tie : DecimalTie

namespace DecimalNotation

/-- Plain text: always positional, integral values without a point. -/
def plain : DecimalNotation := ⟨none, false, .up⟩

/-- Plain text in which even an integral value has a point. -/
def pointed : DecimalNotation := ⟨none, true, .up⟩

/-- Data exchange: positional from 0.00001 to below 10^16, with a point. -/
def exchange : DecimalNotation := ⟨some (-5, 15), true, .even⟩

end DecimalNotation

/-- Digits with a point after the first `point` of them, zeros added on either side as needed. -/
def positionalText (pointKept : Bool) (digits : List Char) (point : Int) : List Char :=
  if point ≤ 0 then ['0', '.'] ++ List.replicate (-point).toNat '0' ++ digits
  else if digits.length ≤ point.toNat then
    digits ++ List.replicate (point.toNat - digits.length) '0' ++
      (if pointKept then ['.', '0'] else [])
  else digits.take point.toNat ++ ['.'] ++ digits.drop point.toNat

/-- Digits with a point after the first one, and the power of ten of that digit. -/
def scientificText (digits : List Char) (power : Int) : List Char :=
  digits.take 1 ++ (if digits.length ≤ 1 then [] else '.' :: digits.drop 1) ++
    ['e', if power < 0 then '-' else '+'] ++ Nat.toDigits 10 power.natAbs

/-- The text of a finite double's absolute value. -/
def DecimalNotation.absText (form : DecimalNotation) (x : Binary64) : List Char :=
  if x.magnitude = 0 then if form.pointKept then ['0', '.', '0'] else ['0']
  else
    let d := Decimal.shortest form.tie x
    let digits := Nat.toDigits 10 d.digits
    let point := (digits.length : Int) + d.power
    match form.positional with
    | none => positionalText form.pointKept digits point
    | some (least, greatest) =>
      if least ≤ point - 1 ∧ point - 1 ≤ greatest then positionalText form.pointKept digits point
      else scientificText digits (point - 1)

/-- The text of a double. -/
def Binary64.text (form : DecimalNotation) (x : Binary64) : String :=
  if x.isNaN then "NaN"
  else
    let sign := if x.negative then ['-'] else []
    String.ofList (sign ++ (if x.isFinite then form.absText x else ['i', 'n', 'f']))

/-- A number in positional notation is its digits, zeros and a point. -/
theorem mem_positionalText {pointKept : Bool} {digits : List Char} {point : Int} {c : Char}
    (h : c ∈ positionalText pointKept digits point) : c ∈ digits ∨ c = '0' ∨ c = '.' := by
  unfold positionalText at h
  split at h
  · simp only [List.mem_append, List.mem_cons, List.mem_replicate, List.not_mem_nil] at h
    grind
  · split at h
    · simp only [List.mem_append, List.mem_replicate] at h
      grind
    · simp only [List.mem_append, List.mem_singleton] at h
      rcases h with (h | h) | h
      · exact .inl (List.mem_of_mem_take h)
      · exact .inr (.inr h)
      · exact .inl (List.mem_of_mem_drop h)

/-- A number in scientific notation is its digits and those of its exponent, with a few marks. -/
theorem mem_scientificText {digits : List Char} {power : Int} {c : Char}
    (h : c ∈ scientificText digits power) :
    c ∈ digits ∨ c.isDigit ∨ c ∈ ['.', 'e', '-', '+'] := by
  unfold scientificText at h
  simp only [List.mem_append] at h
  rcases h with ((h | h) | h) | h
  · exact .inl (List.mem_of_mem_take h)
  · split at h
    · simp at h
    · rcases List.mem_cons.1 h with rfl | h
      · simp
      · exact .inl (List.mem_of_mem_drop h)
  · split at h <;> simp at h <;> grind
  · exact .inr (.inl (Nat.isDigit_of_mem_toDigits (by decide) (by decide) h))

/-- The text of an absolute value is digits with a few marks. -/
theorem DecimalNotation.mem_absText {form : DecimalNotation} {x : Binary64} {c : Char}
    (h : c ∈ form.absText x) : c.isDigit ∨ c ∈ ['.', 'e', '-', '+'] := by
  have hdigits : ∀ {n : Nat}, c ∈ Nat.toDigits 10 n → c.isDigit :=
    Nat.isDigit_of_mem_toDigits (by decide) (by decide)
  have hpositional : ∀ {n : Nat} {point : Int},
      c ∈ positionalText form.pointKept (Nat.toDigits 10 n) point →
        c.isDigit ∨ c ∈ ['.', 'e', '-', '+'] := by
    intro n point hc
    rcases mem_positionalText hc with hc | rfl | rfl
    · exact .inl (hdigits hc)
    · decide
    · decide
  have hzero : ∀ c ∈ ['0', '.', '0'], c.isDigit ∨ c ∈ ['.', 'e', '-', '+'] := by simp
  unfold DecimalNotation.absText at h
  split at h
  · split at h
    · exact hzero c h
    · exact hzero c (by simp_all)
  · dsimp only at h
    split at h
    · exact hpositional h
    · split at h
      · exact hpositional h
      · rcases mem_scientificText h with h | h
        · exact .inl (hdigits h)
        · exact h

/-- An absolute value has a text. -/
theorem DecimalNotation.absText_ne_nil (form : DecimalNotation) (x : Binary64) :
    form.absText x ≠ [] := by
  have hpositional : ∀ {n : Nat} {point : Int},
      positionalText form.pointKept (Nat.toDigits 10 n) point ≠ [] := by
    intro n point
    have hdigits := Nat.toDigits_ne_nil (n := n) (b := 10)
    unfold positionalText
    split
    · simp
    · split <;> simp [hdigits]
  unfold DecimalNotation.absText
  split
  · split <;> simp
  · dsimp only
    split
    · exact hpositional
    · split
      · exact hpositional
      · simp [scientificText]

/-- So has a double. -/
theorem Binary64.text_ne_empty (form : DecimalNotation) (x : Binary64) : x.text form ≠ "" := by
  unfold Binary64.text
  split
  · decide
  · have habs := form.absText_ne_nil x
    simp only [ne_eq, String.ext_iff, String.toList_ofList]
    split <;> split <;> simp [habs]

/-- The text of a double is digits with a few marks, or a word. -/
theorem Binary64.mem_text {form : DecimalNotation} {x : Binary64} {c : Char}
    (h : c ∈ (x.text form).toList) :
    c.isDigit ∨ c ∈ ['.', 'e', '-', '+', 'N', 'a', 'i', 'n', 'f'] := by
  have hword : ∀ word ∈ ["NaN".toList, ['-'], [], ['i', 'n', 'f']], ∀ c ∈ word,
      c ∈ ['.', 'e', '-', '+', 'N', 'a', 'i', 'n', 'f'] := by simp
  unfold Binary64.text at h
  split at h
  · exact .inr (hword _ (by simp) c h)
  · simp only [String.toList_ofList, List.mem_append] at h
    rcases h with h | h
    · refine .inr (hword _ ?_ c h)
      split <;> simp
    · split at h
      · rcases DecimalNotation.mem_absText h with h | h
        · exact .inl h
        · exact .inr (List.mem_append_left ['N', 'a', 'i', 'n', 'f'] h)
      · exact .inr (hword _ (by simp) c h)

end SovdConfig
