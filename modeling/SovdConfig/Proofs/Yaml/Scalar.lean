import SovdConfig.Proofs.Number.Numeral
import SovdConfig.Proofs.Toml.Literal
import SovdConfig.Yaml.Scalar

namespace SovdConfig.Yaml

/-!
# What plain texts stand for

Main statements:

* `Plain.word?_hexText` — hexadecimal numbers are read;
* `Plain.ofText_digits`, `Plain.ofText_minus` — decimal digits stand for an integer;
* `Plain.ofText_point` — digits around a point stand for a double;
* `Plain.ofText_letter` — what starts with a letter stands for itself, a few words apart.
-/

namespace Plain

/-! ### Digits -/

/-- A decimal digit has its value. -/
theorem digitIn?_of_isDigit {c : Char} (h : c.isDigit = true) :
    digitIn? 10 c = some (c.toNat - '0'.toNat) := by
  have hlt : c.toNat - 0x30 < 10 := by
    simp only [Char.isDigit, Bool.and_eq_true, decide_eq_true_eq, UInt32.le_iff_toNat_le] at h
    have hle : c.toNat ≤ 57 := h.2
    omega
  simp [digitIn?, h, hlt]

/-- Digits are read one by one, and each counts as much as the base says. -/
theorem digitsIn?_eq_some {base n : Nat} {cs : List Char} :
    digitsIn? base cs = some n ↔ cs ≠ [] ∧ ∃ digits, cs.mapM (digitIn? base) = some digits ∧
      digits.foldl (fun n d => base * n + d) 0 = n := by
  rw [digitsIn?]
  split
  · next h => simp [h]
  · next h => simp [h]

/-- Decimal digits have the value of the number they denote. -/
theorem digitsIn?_ten {ds : List Char} (hne : ds ≠ []) (h : ∀ c ∈ ds, c.isDigit = true) :
    digitsIn? 10 ds = some (Nat.ofDigitChars 10 ds 0) := by
  refine digitsIn?_eq_some.2 ⟨hne, ds.map fun c => c.toNat - '0'.toNat, ?_, ?_⟩
  · clear hne
    induction ds with
    | nil => rfl
    | cons c ds ih =>
      rw [List.mapM_cons, digitIn?_of_isDigit (h c (by simp)), ih fun d hd => h d (by simp [hd])]
      rfl
  · rw [List.foldl_map, Nat.ofDigitChars_eq_foldl]

/-- One more digit counts as much as the base says. -/
theorem digitsIn?_concat {base n d : Nat} {cs : List Char} {c : Char}
    (h : digitsIn? base cs = some n) (hc : digitIn? base c = some d) :
    digitsIn? base (cs ++ [c]) = some (base * n + d) := by
  obtain ⟨-, digits, hdigits, rfl⟩ := digitsIn?_eq_some.1 h
  exact digitsIn?_eq_some.2 ⟨by simp, digits ++ [d], by simp [List.mapM_append, hdigits, hc],
    by simp⟩

/-- A zero in front does not change the value of digits. -/
theorem digitsIn?_zero_cons {base n : Nat} {cs : List Char} (hbase : 0 < base)
    (h : digitsIn? base cs = some n) : digitsIn? base ('0' :: cs) = some n := by
  obtain ⟨-, digits, hdigits, rfl⟩ := digitsIn?_eq_some.1 h
  have hzero : digitIn? base '0' = some 0 := by simp [digitIn?, hbase]
  exact digitsIn?_eq_some.2 ⟨by simp, 0 :: digits, by simp [List.mapM_cons, hzero, hdigits],
    by simp⟩

/-- Nor do zeros up to a width. -/
theorem digitsIn?_padLeft {base n : Nat} {cs : List Char} (hbase : 0 < base)
    (h : digitsIn? base cs = some n) (width : Nat) :
    digitsIn? base (padLeft width cs) = some n := by
  unfold padLeft
  induction width - cs.length with
  | zero => exact h
  | succ k ih => exact digitsIn?_zero_cons hbase ih

/-- The hexadecimal digits of a number have its value. -/
theorem digitsIn?_hexDigits (n : Nat) : digitsIn? 16 (hexDigits true n) = some n := by
  have hdigit : ∀ d < 16, digitIn? 16 (Nat.digitChar d).toUpper = some d := by decide
  induction n using Nat.strongRecOn with
  | _ n ih =>
    by_cases hn : n < 16
    · simp [hexDigits, Nat.toDigits_of_lt_base hn, digitsIn?, hdigit n hn]
    · have hle : 16 ≤ n := Nat.le_of_not_lt hn
      have hconcat := digitsIn?_concat (ih (n / 16) (by omega))
        (hdigit (n % 16) (Nat.mod_lt n (by decide)))
      rw [Nat.div_add_mod] at hconcat
      simpa [hexDigits, Nat.toDigits_of_base_le (by decide) hle] using hconcat

/-- A number of 64 bits in hexadecimal is read. -/
theorem word?_hexText (width : Nat) {n : Nat} (hn : fitsUnsigned 64 n = true) :
    word? (hexText width n) = some n := by
  have hdigits := digitsIn?_padLeft (by decide) (digitsIn?_hexDigits n) width
  have hfits : fitsUnsigned 128 n = true := by
    simp only [fitsUnsigned, decide_eq_true_eq] at hn ⊢
    exact Nat.lt_trans hn (by decide)
  simp [word?, hexText, integer?, magnitude?, hdigits, hfits, hn, Option.filter]

/-! ### Integers -/

/-- A text that starts with a digit or a minus sign is no word for an empty value or a truth
    value. -/
theorem not_word {text : String} {c : Char} (htext : text.toList.head? = some c)
    (hc : c.isDigit = true ∨ c = '-') : isNothing text = false ∧ boolean? text = none := by
  have hne : ∀ w ∈ ["", "null", "Null", "NULL", "~", "true", "True", "TRUE", "false", "False",
      "FALSE"], text ≠ w := by
    rintro w hw rfl
    have hhead : ∀ w ∈ ["", "null", "Null", "NULL", "~", "true", "True", "TRUE", "false", "False",
        "FALSE"], w.toList.head?.any (fun d => d.isDigit || d == '-') = false := by decide
    have hd := hhead text hw
    rw [htext] at hd
    rcases hc with hc | rfl
    · simp [hc] at hd
    · simp at hd
  simp only [List.forall_mem_cons] at hne
  simp [isNothing, boolean?, hne]

/-- Decimal digits that do not start with a zero, unless they are just that. -/
def IsUnpadded (ds : List Char) : Prop :=
  ds ≠ [] ∧ (∀ c ∈ ds, c.isDigit = true) ∧ (ds.head? = some '0' → ds = ['0'])

/-- Decimal digits have their value as a magnitude. -/
theorem magnitude?_of_isUnpadded {ds : List Char} (h : IsUnpadded ds) :
    magnitude? ds = some (Nat.ofDigitChars 10 ds 0) := by
  obtain ⟨hne, hdigits, hzero⟩ := h
  have hpadded : isPadded ds = false := by
    have hsigns : '-' ∉ ds ∧ '+' ∉ ds :=
      ⟨fun h => absurd (hdigits _ h) (by decide), fun h => absurd (hdigits _ h) (by decide)⟩
    unfold isPadded
    split
    · simp at hsigns
    · simp at hsigns
    · by_cases hhead : ds.head? = some '0'
      · rw [hzero hhead]
        rfl
      · simp [hhead]
  have hten := digitsIn?_ten hne hdigits
  unfold magnitude?
  split
  · exact absurd (hdigits 'x' (by simp)) (by decide)
  · exact absurd (hdigits 'o' (by simp)) (by decide)
  · exact absurd (hdigits 'b' (by simp)) (by decide)
  · simp [hpadded, hten]

/-- Decimal digits stand for the number they denote. -/
theorem ofText_digits {text : String} {n : Nat} (h : IsUnpadded text.toList)
    (hn : Nat.ofDigitChars 10 text.toList 0 = n) (hfits : fitsUnsigned 128 n = true) :
    ofText text = natural n := by
  have hmagnitude := magnitude?_of_isUnpadded h
  rw [hn] at hmagnitude
  obtain ⟨c, cs, htext⟩ := List.exists_cons_of_ne_nil h.1
  obtain ⟨hnothing, hboolean⟩ :=
    not_word (show text.toList.head? = some c by rw [htext]; rfl)
      (.inl (h.2.1 c (by simp [htext])))
  have hinteger : integer? text.toList = some (natural n) := by
    unfold integer?
    split
    · next heq => exact absurd (h.2.1 '-' (by rw [heq]; simp)) (by decide)
    · next heq => exact absurd (h.2.1 '+' (by rw [heq]; simp)) (by decide)
    · simp [hmagnitude, hfits, Option.filter]
  simp [ofText, hnothing, hboolean, hinteger]

/-- Decimal digits after a minus sign stand for the negative number. -/
theorem ofText_minus {text : String} {ds : List Char} (htext : text.toList = '-' :: ds) {n : Nat}
    (h : IsUnpadded ds) (hn : Nat.ofDigitChars 10 ds 0 = n)
    (hfits : fitsSigned 128 (-(n : Int)) = true) : ofText text = signed (-(n : Int)) := by
  have hmagnitude := magnitude?_of_isUnpadded h
  rw [hn] at hmagnitude
  obtain ⟨hnothing, hboolean⟩ :=
    not_word (show text.toList.head? = some '-' by rw [htext]; rfl) (.inr rfl)
  simp [ofText, hnothing, hboolean, integer?, htext, hmagnitude, hfits, Option.filter]

/-! ### Doubles -/

/-- A text with a character that is no digit does not consist of digits. -/
theorem digitsIn?_eq_none {base : Nat} {cs : List Char} {c : Char} (hmem : c ∈ cs)
    (hc : digitIn? base c = none) : digitsIn? base cs = none := by
  have hmap : cs.mapM (digitIn? base) = none := by
    induction cs with
    | nil => simp at hmem
    | cons d cs ih =>
      rw [List.mapM_cons]
      rcases List.mem_cons.1 hmem with rfl | hmem
      · simp [hc]
      · cases digitIn? base d with
        | none => rfl
        | some d => simp [ih hmem]
  simp [digitsIn?, hmap]

/-- A number with a point is no digits with a zero in front. -/
theorem isPadded_point {cs : List Char} (h : '.' ∈ cs) : isPadded cs = false := by
  have hall : ∀ ds : List Char, '.' ∈ ds → ds.all Char.isDigit = false := fun ds hmem =>
    List.all_eq_false.2 ⟨'.', hmem, by decide⟩
  unfold isPadded
  split
  · next rest => simp [hall rest (by simpa using h)]
  · next rest => simp [hall rest (by simpa using h)]
  · simp [hall cs h]

/-- Digits around a point are no magnitude of an integer. -/
theorem magnitude?_point {whole : List Char} (hne : whole ≠ [])
    (hwhole : ∀ c ∈ whole, c.isDigit = true) (fraction : List Char) :
    magnitude? (whole ++ '.' :: fraction) = none := by
  have hten : digitsIn? 10 (whole ++ '.' :: fraction) = none :=
    digitsIn?_eq_none (c := '.') (by simp) (by decide)
  have hsecond : ∀ d ∈ (whole ++ '.' :: fraction).tail.head?, d.isDigit = true ∨ d = '.' := by
    match whole, hne with
    | [c], _ => simp
    | c :: d :: rest, _ => simpa using .inl (hwhole d (by simp))
  unfold magnitude?
  split
  · next heq => exact absurd (hsecond 'x' (by simp [heq])) (by decide)
  · next heq => exact absurd (hsecond 'o' (by simp [heq])) (by decide)
  · next heq => exact absurd (hsecond 'b' (by simp [heq])) (by decide)
  · simp [hten]

/-- Digits around a point are read as the double nearest to them. -/
theorem numeral_double?_point (negative : Bool) {whole fraction : List Char} (hne : whole ≠ [])
    (hwhole : ∀ c ∈ whole, c.isDigit = true) (hfraction : ∀ c ∈ fraction, c.isDigit = true) :
    Numeral.double? ((if negative then ['-'] else []) ++ (whole ++ '.' :: fraction)) =
      some (Binary64.ofDecimal negative (Numeral.valueOf (whole ++ fraction))
        (-(fraction.length : Int))) := by
  have hdecimal := Numeral.decimal?_point negative hne hwhole hfraction
  obtain ⟨c, whole, rfl⟩ := List.exists_cons_of_ne_nil hne
  rw [← hdecimal]
  exact Numeral.double?_of_isDigit negative (hwhole c (by simp)) _

/-- The words for infinity and for no number. -/
def doubleWords : List String :=
  [".inf", ".Inf", ".INF", "-.inf", "-.Inf", "-.INF", ".nan", ".NaN", ".NAN"]

/-- A text without a plus sign that is no such word is read as a finite number. -/
theorem double?_of_not_word {text : String} (hplus : text.toList.head? ≠ some '+')
    (hword : ∀ w ∈ doubleWords, text ≠ w) :
    double? text = (Numeral.double? text.toList).filter Binary64.isFinite := by
  simp only [doubleWords, List.forall_mem_cons] at hword
  unfold double?
  cases htext : text.toList with
  | nil => simp [hword, htext]
  | cons c cs =>
    have hc : c ≠ '+' := by simpa [htext] using hplus
    simp [hword, hc, htext]

/-- Digits around a point, after a minus sign or none, stand for the double nearest to them if it is
    finite. -/
theorem ofText_point {text : String} {negative : Bool} {whole fraction : List Char}
    (htext : text.toList = (if negative then ['-'] else []) ++ (whole ++ '.' :: fraction))
    (hne : whole ≠ []) (hwhole : ∀ c ∈ whole, c.isDigit = true)
    (hfraction : ∀ c ∈ fraction, c.isDigit = true) {x : Binary64}
    (hx : Binary64.ofDecimal negative (Numeral.valueOf (whole ++ fraction))
      (-(fraction.length : Int)) = x) (hfinite : x.isFinite = true) : ofText text = double x := by
  have hmagnitude := magnitude?_point hne hwhole fraction
  have hpadded : isPadded text.toList = false := isPadded_point (by simp [htext])
  have hnumeral := numeral_double?_point negative hne hwhole hfraction
  rw [← htext, hx] at hnumeral
  obtain ⟨c, rest, rfl⟩ := List.exists_cons_of_ne_nil hne
  have hc : c.isDigit = true := hwhole c (by simp)
  obtain ⟨hplus, hminus, hpoint⟩ := Numeral.ne_of_isDigit hc
  -- a text that starts like this is none of the words
  have hhead : ∃ d, text.toList.head? = some d ∧ (d.isDigit = true ∨ d = '-') := by
    cases negative with
    | false => exact ⟨c, by simp [htext], .inl hc⟩
    | true => exact ⟨'-', by simp [htext], .inr rfl⟩
  obtain ⟨d, hd, hsign⟩ := hhead
  obtain ⟨hnothing, hboolean⟩ := not_word hd hsign
  have hinteger : integer? text.toList = none := by
    cases negative with
    | false => simp_all [integer?]
    | true => simp_all [integer?]
  have hplus' : text.toList.head? ≠ some '+' := by
    rintro h
    obtain rfl : d = '+' := by simpa [hd] using h
    simp at hsign
  have hword : ∀ w ∈ doubleWords, text ≠ w := by
    have hshape : ∀ w ∈ doubleWords, w.toList.head? = some '.' ∨
        w.toList.head? = some '-' ∧ w.toList.tail.head? = some '.' := by decide
    rintro w hw rfl
    have hshape := hshape text hw
    rw [htext] at hshape
    cases negative with
    | false => simp [hpoint, hminus] at hshape
    | true => simp [hpoint] at hshape
  have hdouble : double? text = some x := by
    rw [double?_of_not_word hplus' hword, hnumeral]
    simp [Option.filter, hfinite]
  simp [ofText, hnothing, hboolean, hinteger, hpadded, hdouble]

/-! ### Words -/

/-- A letter is no digit. -/
theorem not_isDigit_of_isAlpha {c : Char} (h : c.isAlpha = true) : c.isDigit = false := by
  rw [Bool.eq_false_iff]
  intro hdigit
  unfold Char.isAlpha Char.isUpper Char.isLower at h
  simp only [Char.isDigit, Bool.or_eq_true, Bool.and_eq_true, decide_eq_true_eq,
    ge_iff_le] at h hdigit
  rcases h with h | h
  · exact absurd (UInt32.le_trans h.1 hdigit.2) (by decide)
  · exact absurd (UInt32.le_trans h.1 hdigit.2) (by decide)

/-- A letter is no decimal digit of a number. -/
theorem digitIn?_of_isAlpha {c : Char} (h : c.isAlpha = true) : digitIn? 10 c = none := by
  have hdigit := not_isDigit_of_isAlpha h
  simp only [digitIn?, hdigit, Bool.false_eq_true, if_false]
  -- the letters that are hexadecimal digits are worth ten at least
  refine if_neg ?_
  split
  · omega
  · split <;> omega

/-- A text that starts with a letter stands for itself, unless it is a word for an empty value or a
    truth value. -/
theorem ofText_letter {text : String} {c : Char} {cs : List Char} (htext : text.toList = c :: cs)
    (hc : c.isAlpha = true) (hnothing : isNothing text = false) (hboolean : boolean? text = none) :
    ofText text = .text text := by
  have hdigit := not_isDigit_of_isAlpha hc
  have hnone := digitIn?_of_isAlpha hc
  have hne : c ≠ '-' ∧ c ≠ '+' ∧ c ≠ '0' ∧ c ≠ '.' := by
    refine ⟨?_, ?_, ?_, ?_⟩ <;> rintro rfl <;> simp at hc
  have hinteger : integer? text.toList = none := by
    simp [integer?, htext, hne, magnitude?, isPadded, digitsIn?_eq_none (List.mem_cons_self) hnone]
  have hpadded : isPadded text.toList = false := by
    simp [isPadded, htext, hne]
  have hword : ∀ w ∈ doubleWords, text ≠ w := by
    have hhead : ∀ w ∈ doubleWords, w.toList.head?.any Char.isAlpha = false := by decide
    rintro w hw rfl
    have hd := hhead text hw
    simp [htext, hc] at hd
  have hdouble : double? text = none := by
    have hsplit : Numeral.splitSign text.toList = (false, text.toList) := by
      simp [Numeral.splitSign, htext, hne]
    have hdecimal : Numeral.decimal? false text.toList = none := by
      simp [Numeral.decimal?, Numeral.spanDigits, htext, hdigit, hne]
    rw [double?_of_not_word (by simp [htext, hne]) hword, Numeral.double?, hsplit]
    -- the words for infinity and for no number are read, but are not finite
    simp only [hdecimal]
    split
    · decide
    · split
      · decide
      · rfl
  simp [ofText, hnothing, hboolean, hinteger, hpadded, hdouble]

end Plain

end SovdConfig.Yaml
