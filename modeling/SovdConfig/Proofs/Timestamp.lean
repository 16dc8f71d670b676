import Mathlib.Data.List.Forall2
import SovdConfig.Proofs.Number.Decimal
import SovdConfig.Timestamp

namespace SovdConfig.Timestamp

/-!
# Times as text

The text of a time says what the time is down to the microsecond, in every year.  Main definitions:

* `fieldsText` — numbers of fixed widths, each after its mark;
* `numbers` — the numbers behind the year of a time.

Main statements:

* `padded_inj`, `yearText_inj` — numbers with zeros in front, and years with or without a sign;
* `fieldsText_inj` — numbers of fixed widths one behind the other;
* `text_eq_iff` — two times have one text exactly if their fields agree.
-/

/-! ### Numbers with zeros in front -/

/-- Zeros in front do not change the number that the digits denote. -/
theorem ofDigitChars_padded (width n : Nat) : Nat.ofDigitChars 10 (padded width n) 0 = n := by
  rw [padded, padLeft, ofDigitChars_zeros_append, Nat.ofDigitChars_ten_toDigits]

/-- Different numbers differ with zeros in front. -/
theorem padded_inj {width m n : Nat} : padded width m = padded width n ↔ m = n := by
  refine ⟨fun h => ?_, fun h => by rw [h]⟩
  rw [← ofDigitChars_padded width m, h, ofDigitChars_padded]

/-- A number that has no more digits than the width fills it. -/
theorem length_padded {width n : Nat} (hwidth : 0 < width) (hn : n < tenPower width) :
    (padded width n).length = width := by
  have hdigits : (Nat.toDigits 10 n).length ≤ width :=
    (Nat.length_toDigits_le_iff (by decide) hwidth).2 hn
  rw [padded, length_padLeft, Nat.max_eq_left hdigits]

/-- Numbers that fit a width take as many characters each. -/
theorem length_padded_eq {width m n : Nat} (hwidth : 0 < width) (hm : m < tenPower width)
    (hn : n < tenPower width) : (padded width m).length = (padded width n).length := by
  rw [length_padded hwidth hm, length_padded hwidth hn]

/-! ### Years -/

/-- No number starts with a sign. -/
theorem ne_of_mem_head?_padded {width n : Nat} {c : Char} (h : c ∈ (padded width n).head?) :
    c ≠ '+' ∧ c ≠ '-' :=
  have hdigit := isDigit_of_mem_padded (List.mem_of_mem_head? h)
  ⟨by rintro rfl; simp at hdigit, by rintro rfl; simp at hdigit⟩

/-- A year that is printed without a sign starts with a digit, any other with its sign. -/
theorem head?_yearText (year : Int) :
    (0 ≤ year ∧ year ≤ 9999 → ∀ c ∈ (yearText year).head?, c ≠ '+' ∧ c ≠ '-') ∧
      (¬ (0 ≤ year ∧ year ≤ 9999) →
        (yearText year).head? = some (if year < 0 then '-' else '+')) := by
  refine ⟨fun h c hc => ?_, fun h => ?_⟩
  · rw [yearText, if_pos h] at hc
    exact ne_of_mem_head?_padded hc
  · rw [yearText, if_neg h, List.head?_cons]

/-- Different years have different texts. -/
theorem yearText_inj {year year' : Int} : yearText year = yearText year' ↔ year = year' := by
  refine ⟨fun h => ?_, fun h => by rw [h]⟩
  by_cases hyear : 0 ≤ year ∧ year ≤ 9999 <;> by_cases hyear' : 0 ≤ year' ∧ year' ≤ 9999
  · rw [yearText, yearText, if_pos hyear, if_pos hyear', padded_inj] at h
    omega
  · have hsign := (head?_yearText year').2 hyear'
    have hdigit := (head?_yearText year).1 hyear _ (h ▸ hsign)
    split at hdigit <;> simp at hdigit
  · have hsign := (head?_yearText year).2 hyear
    have hdigit := (head?_yearText year').1 hyear' _ (h ▸ hsign)
    split at hdigit <;> simp at hdigit
  · rw [yearText, yearText, if_neg hyear, if_neg hyear'] at h
    obtain ⟨hsign, hdigits⟩ := List.cons.inj h
    have habs := padded_inj.1 hdigits
    by_cases hneg : year < 0 <;> by_cases hneg' : year' < 0 <;> simp [hneg, hneg'] at hsign
    all_goals omega

/-! ### Numbers of fixed widths -/

/-- Numbers with the marks in front of them and the widths to which they are filled. -/
def fieldsText : List (Char × Nat) → List Nat → List Char
  | (mark, width) :: layout, n :: ns => mark :: padded width n ++ fieldsText layout ns
  | _, _ => []

/-- Whether the numbers have no more digits than their widths. -/
def FitsLayout (layout : List (Char × Nat)) (ns : List Nat) : Prop :=
  List.Forall₂ (fun field n => 0 < field.2 ∧ n < tenPower field.2) layout ns

/-- Numbers that fit their widths are told apart. -/
theorem fieldsText_inj {layout : List (Char × Nat)} {ns ns' : List Nat}
    (h : FitsLayout layout ns) (h' : FitsLayout layout ns') :
    fieldsText layout ns = fieldsText layout ns' ↔ ns = ns' := by
  refine ⟨fun heq => ?_, fun heq => by rw [heq]⟩
  induction h generalizing ns' with
  | nil =>
    cases h'
    rfl
  | @cons field n layout ns hn _ ih =>
    cases h' with
    | @cons _ n' _ ns' hn' hns' =>
      -- the first numbers take as many characters each
      have hlength : (padded field.2 n).length = (padded field.2 n').length :=
        length_padded_eq hn.1 hn.2 hn'.2
      obtain ⟨hfirst, hrest⟩ := List.append_inj (List.cons.inj heq).2 hlength
      rw [padded_inj.1 hfirst, ih hns' hrest]

/-- They take so many characters, whatever they are. -/
theorem length_fieldsText {layout : List (Char × Nat)} {ns : List Nat}
    (h : FitsLayout layout ns) :
    (fieldsText layout ns).length = layout.foldr (fun field length => field.2 + 1 + length) 0 := by
  induction h with
  | nil => rfl
  | cons hn _ ih =>
    simp only [fieldsText, List.length_append, List.length_cons, length_padded hn.1 hn.2, ih,
      List.foldr_cons]

/-! ### The whole text -/

/-- The fields behind the year. -/
def layout : List (Char × Nat) := [('-', 2), ('-', 2), ('T', 2), (':', 2), (':', 2), ('.', 6)]

/-- The numbers behind the year. -/
def numbers (t : Timestamp) : List Nat :=
  [t.month, t.day, t.hour, t.minute, t.printedSecond, t.microsecond]

/-- The text of a time is its year and those numbers. -/
theorem toList_text (t : Timestamp) :
    t.text.toList = yearText t.year ++ fieldsText layout t.numbers := by
  simp [text, secondChars, fieldsText, layout, numbers]

/-- A month has at most 31 days. -/
theorem daysInMonth_le (year : Int) (month : Nat) : daysInMonth year month ≤ 31 := by
  unfold daysInMonth
  repeat' split
  all_goals omega

/-- Each of the numbers fits its field. -/
theorem fitsLayout_numbers (t : Timestamp) : FitsLayout layout t.numbers := by
  obtain ⟨-, hmonth, hday, hhour, hminute, hsecond, hnano⟩ := t.valid
  have hdays := daysInMonth_le t.year t.month
  have hprinted : t.printedSecond < 100 := by
    unfold printedSecond
    omega
  have hmicro : t.microsecond < 1000000 := by
    unfold microsecond
    omega
  have hall : t.month < 100 ∧ t.day < 100 ∧ t.hour < 100 ∧ t.minute < 100 := by omega
  have htwo : tenPower 2 = 100 := rfl
  have hsix : tenPower 6 = 1000000 := rfl
  simp [FitsLayout, layout, numbers, htwo, hsix, hprinted, hmicro, hall]

/-- Two times have the same text exactly if they agree in date, hour, minute, printed second and
    microsecond. -/
theorem text_eq_iff {t t' : Timestamp} : t.text = t'.text ↔
    t.year = t'.year ∧ t.numbers = t'.numbers := by
  rw [← String.toList_inj, toList_text, toList_text, ← yearText_inj,
    ← fieldsText_inj t.fitsLayout_numbers t'.fitsLayout_numbers]
  have hlength : (fieldsText layout t.numbers).length = (fieldsText layout t'.numbers).length := by
    rw [length_fieldsText t.fitsLayout_numbers, length_fieldsText t'.fitsLayout_numbers]
  exact ⟨fun h => List.append_inj' h hlength, fun ⟨hyear, hrest⟩ => by rw [hyear, hrest]⟩

end SovdConfig.Timestamp
