import Mathlib.Data.Prod.Lex
import Mathlib.Data.List.Forall2
import SovdConfig.Proofs.Text.Order
import SovdConfig.Proofs.Timestamp

namespace SovdConfig.Timestamp

/-!
# The order of times

Of two times the earlier one is told by the calendar: the year, the day in the year, the second of
the day and the nanoseconds since then, a leap second being a second that lasts for two.  In the
years that are printed with four digits, the texts of times are ordered like the times.  Main
definitions:

* `dayOfYear`, `secondOfDay`, `instant` — when a time is;
* `wholeMicroseconds` — a time without what is less than a microsecond;
* `HasPlainYear` — whether the year is printed without a sign.

Main statements:

* `lt_iff_numbers` — times of whole microseconds are ordered like the numbers that are printed;
* `fieldsText_lt_iff` — texts of numbers of fixed widths are ordered like the numbers;
* `text_le_iff` — texts of times are ordered like the times in whole microseconds.
-/

open Text

/-! ### When a time is -/

/-- The days of the first months of a year, so many of them. -/
def daysOfMonths (year : Int) : Nat → Nat
  | 0 => 0
  | months + 1 => daysOfMonths year months + daysInMonth year (months + 1)

/-- The place of a day in its year, from 1. -/
def dayOfYear (t : Timestamp) : Nat := daysOfMonths t.year (t.month - 1) + t.day

/-- The seconds of the day that are over, leap seconds not counted. -/
def secondOfDay (t : Timestamp) : Nat := t.hour * 3600 + t.minute * 60 + t.second

/-- When a time is: of two times, the first of these numbers that differs tells the earlier one. -/
def instant (t : Timestamp) : Int ×ₗ Nat ×ₗ Nat ×ₗ Nat :=
  toLex (t.year, toLex (t.dayOfYear, toLex (t.secondOfDay, t.nanosecond)))

instance : LT Timestamp := ⟨fun t t' => t.instant < t'.instant⟩

instance : LE Timestamp := ⟨fun t t' => t.instant ≤ t'.instant⟩

instance (t t' : Timestamp) : Decidable (t ≤ t') :=
  inferInstanceAs (Decidable (t.instant ≤ t'.instant))

/-- Of two times, one is not earlier than the other if the other is no later. -/
theorem not_lt_iff_le {t t' : Timestamp} : ¬ t' < t ↔ t ≤ t' :=
  not_lt (a := t'.instant) (b := t.instant)

/-- What makes a time earlier than another. -/
theorem lt_iff {t t' : Timestamp} : t < t' ↔ t.year < t'.year ∨ t.year = t'.year ∧
    (t.dayOfYear < t'.dayOfYear ∨ t.dayOfYear = t'.dayOfYear ∧
      (t.secondOfDay < t'.secondOfDay ∨
        t.secondOfDay = t'.secondOfDay ∧ t.nanosecond < t'.nanosecond)) := by
  show t.instant < t'.instant ↔ _
  simp only [instant, Prod.Lex.toLex_lt_toLex]

/-! ### Days of a year -/

/-- The days of a month are over when a later month begins. -/
theorem daysOfMonths_add_le (year : Int) {month months : Nat} (h : month < months) :
    daysOfMonths year month + daysInMonth year (month + 1) ≤ daysOfMonths year months := by
  induction months, h using Nat.le_induction with
  | base => exact Nat.le_refl _
  | succ months _ ih => exact Nat.le_trans ih (Nat.le_add_right _ _)

/-- In one year, days of an earlier month come first. -/
theorem dayOfYear_lt_of_month {t t' : Timestamp} (hyear : t.year = t'.year)
    (h : t.month < t'.month) : t.dayOfYear < t'.dayOfYear := by
  obtain ⟨-, hmonth, hday, -⟩ := t.valid
  obtain ⟨-, -, hday', -⟩ := t'.valid
  have hmonths : t.month - 1 < t'.month - 1 := by omega
  have hover := daysOfMonths_add_le t.year hmonths
  rw [Nat.sub_add_cancel hmonth.1] at hover
  unfold dayOfYear
  rw [← hyear]
  omega

example :
    let leapDay : Timestamp := ⟨2000, 2, 29, 0, 0, 0, 0, by decide⟩
    let next : Timestamp := ⟨2000, 3, 1, 0, 0, 0, 0, by decide⟩
    leapDay.dayOfYear + 1 = next.dayOfYear := by decide

/-- In one year, days are ordered by month and day. -/
theorem dayOfYear_lt_iff {t t' : Timestamp} (hyear : t.year = t'.year) :
    t.dayOfYear < t'.dayOfYear ↔ t.month < t'.month ∨ t.month = t'.month ∧ t.day < t'.day := by
  rcases Nat.lt_trichotomy t.month t'.month with h | h | h
  · simp [h, dayOfYear_lt_of_month hyear h]
  · simp [dayOfYear, hyear, h]
  · have hlater := dayOfYear_lt_of_month hyear.symm h
    omega

/-- In one year, a day is told by its place. -/
theorem dayOfYear_eq_iff {t t' : Timestamp} (hyear : t.year = t'.year) :
    t.dayOfYear = t'.dayOfYear ↔ t.month = t'.month ∧ t.day = t'.day := by
  have hlt := dayOfYear_lt_iff hyear
  have hgt := dayOfYear_lt_iff hyear.symm
  omega

/-! ### Whole microseconds -/

/-- A time without what is less than a microsecond. -/
def wholeMicroseconds (t : Timestamp) : Timestamp where
  __ := t
  nanosecond := t.nanosecond / 1000 * 1000
  valid := by
    obtain ⟨hyear, hmonth, hday, hhour, hminute, hsecond, hnano⟩ := t.valid
    exact ⟨hyear, hmonth, hday, hhour, hminute, hsecond, by omega⟩

/-- What is cut off does not make an earlier time a later one. -/
theorem wholeMicroseconds_le {t t' : Timestamp} (h : t ≤ t') :
    t.wholeMicroseconds ≤ t'.wholeMicroseconds := by
  rw [← not_lt_iff_le, lt_iff] at h ⊢
  intro hlt
  apply h
  simp only [wholeMicroseconds, dayOfYear, secondOfDay] at hlt ⊢
  omega

/-- Within a day, times of whole microseconds are ordered like hour, minute, printed second and
    microsecond. -/
theorem timeOfDay_lt_iff (t t' : Timestamp) :
    (t.secondOfDay < t'.secondOfDay ∨ t.secondOfDay = t'.secondOfDay ∧
        t.nanosecond / 1000 * 1000 < t'.nanosecond / 1000 * 1000) ↔
      t.hour < t'.hour ∨ t.hour = t'.hour ∧ (t.minute < t'.minute ∨ t.minute = t'.minute ∧
        (t.printedSecond < t'.printedSecond ∨ t.printedSecond = t'.printedSecond ∧
          t.microsecond < t'.microsecond)) := by
  obtain ⟨-, -, -, hhour, hminute, hsecond, hnano⟩ := t.valid
  obtain ⟨-, -, -, hhour', hminute', hsecond', hnano'⟩ := t'.valid
  -- a leap second is second 59, so its 60 is still within the minute
  unfold secondOfDay printedSecond microsecond
  omega

/-- Times of whole microseconds are ordered like their years and the numbers that are printed
    behind them. -/
theorem lt_iff_numbers {t t' : Timestamp} : t.wholeMicroseconds < t'.wholeMicroseconds ↔
    t.year < t'.year ∨ t.year = t'.year ∧ t.numbers < t'.numbers := by
  rw [lt_iff]
  refine or_congr_right (and_congr_right fun (hyear : t.year = t'.year) => ?_)
  -- day of the year and time of day are kept
  show (t.dayOfYear < t'.dayOfYear ∨ t.dayOfYear = t'.dayOfYear ∧
    (t.secondOfDay < t'.secondOfDay ∨ t.secondOfDay = t'.secondOfDay ∧
      t.nanosecond / 1000 * 1000 < t'.nanosecond / 1000 * 1000)) ↔ _
  rw [timeOfDay_lt_iff, dayOfYear_lt_iff hyear, dayOfYear_eq_iff hyear]
  simp only [numbers, List.cons_lt_cons_iff, List.not_lt_nil, and_false, or_false, and_or_left,
    or_assoc, and_assoc]

/-- Times of whole microseconds are told by their years and the numbers that are printed behind
    them. -/
theorem wholeMicroseconds_eq_iff {t t' : Timestamp} :
    t.wholeMicroseconds = t'.wholeMicroseconds ↔ t.year = t'.year ∧ t.numbers = t'.numbers := by
  obtain ⟨-, -, -, -, -, hsecond, hnano⟩ := t.valid
  obtain ⟨-, -, -, -, -, hsecond', hnano'⟩ := t'.valid
  have htime : t.second = t'.second ∧ t.nanosecond / 1000 * 1000 = t'.nanosecond / 1000 * 1000 ↔
      t.printedSecond = t'.printedSecond ∧ t.microsecond = t'.microsecond := by
    unfold printedSecond microsecond
    omega
  simp only [wholeMicroseconds, Timestamp.mk.injEq, numbers, List.cons.injEq, and_true, htime]

/-! ### Texts of numbers -/

/-- Numbers with zeros in front are ordered like the numbers. -/
theorem padded_lt_iff {width m n : Nat} (hwidth : 0 < width) (hm : m < tenPower width)
    (hn : n < tenPower width) : padded width m < padded width n ↔ m < n := by
  rw [lt_iff_ofDigitChars_lt (length_padded_eq hwidth hm hn) (fun _ => isDigit_of_mem_padded)
    (fun _ => isDigit_of_mem_padded), ofDigitChars_padded, ofDigitChars_padded]

/-- Texts that start with numbers of one width are compared by the numbers, then by what follows. -/
theorem padded_append_lt_iff {width m n : Nat} {rest rest' : List Char} (hwidth : 0 < width)
    (hm : m < tenPower width) (hn : n < tenPower width) :
    padded width m ++ rest < padded width n ++ rest' ↔ m < n ∨ m = n ∧ rest < rest' := by
  rw [append_lt_append_iff (length_padded_eq hwidth hm hn), padded_lt_iff hwidth hm hn, padded_inj]

/-- Texts of numbers of fixed widths are ordered like the numbers. -/
theorem fieldsText_lt_iff {layout : List (Char × Nat)} {ns ns' : List Nat}
    (h : FitsLayout layout ns) (h' : FitsLayout layout ns') :
    fieldsText layout ns < fieldsText layout ns' ↔ ns < ns' := by
  induction h generalizing ns' with
  | nil =>
    cases h'
    simp [fieldsText]
  | @cons field n layout ns hn _ ih =>
    cases h' with
    | @cons _ n' _ ns' hn' hns' =>
      -- the marks are the same
      have hmark : ¬ field.1 < field.1 := Nat.lt_irrefl _
      rw [fieldsText, fieldsText, List.cons_append, List.cons_append, List.cons_lt_cons_iff,
        padded_append_lt_iff hn.1 hn.2 hn'.2, ih hns', List.cons_lt_cons_iff]
      simp only [hmark, false_or, true_and]

/-! ### Texts of times -/

/-- Whether the year is printed as four digits, without a sign. -/
def HasPlainYear (t : Timestamp) : Prop := 0 ≤ t.year ∧ t.year ≤ 9999

instance (t : Timestamp) : Decidable t.HasPlainYear := by
  unfold HasPlainYear; infer_instance

/-- The text of such a time starts with the four digits. -/
theorem HasPlainYear.toList_text {t : Timestamp} (h : t.HasPlainYear) :
    t.text.toList = padded 4 t.year.toNat ++ fieldsText layout t.numbers := by
  obtain ⟨hleast, hgreatest⟩ := h
  rw [Timestamp.toList_text, yearText, if_pos ⟨hleast, hgreatest⟩]

/-- Four digits are enough for the year. -/
theorem HasPlainYear.toNat_lt {t : Timestamp} (h : t.HasPlainYear) :
    t.year.toNat < tenPower 4 := by
  have hfour : tenPower 4 = 10000 := rfl
  have hyear := h.2
  omega

/-- The text of such a time has 26 characters. -/
theorem HasPlainYear.length_text {t : Timestamp} (h : t.HasPlainYear) : t.text.length = 26 := by
  rw [← String.length_toList, h.toList_text, List.length_append,
    length_padded (by decide) h.toNat_lt, length_fieldsText t.fitsLayout_numbers]
  rfl

/-- The characters of a printed time are ASCII. -/
theorem toNat_lt_of_mem_text {t : Timestamp} {c : Char} (h : c ∈ t.text.toList) :
    c.toNat < 0x80 := by
  rcases mem_text h with hdigit | hmark
  · have hcode := toNat_of_isDigit hdigit
    omega
  · simp only [List.mem_cons, List.not_mem_nil, or_false] at hmark
    rcases hmark with rfl | rfl | rfl | rfl | rfl <;> decide

/-- The texts of two such times are ordered like the times in whole microseconds. -/
theorem encodeUtf8_text_lt_iff {t t' : Timestamp} (h : t.HasPlainYear) (h' : t'.HasPlainYear) :
    encodeUtf8 t.text < encodeUtf8 t'.text ↔ t.wholeMicroseconds < t'.wholeMicroseconds := by
  have hbytes := encodeUtf8_lt_iff (fun _ => toNat_lt_of_mem_text (t := t))
    (fun _ => toNat_lt_of_mem_text (t := t'))
  rw [String.ofList_toList, String.ofList_toList] at hbytes
  rw [hbytes, h.toList_text, h'.toList_text,
    padded_append_lt_iff (by decide) h.toNat_lt h'.toNat_lt,
    fieldsText_lt_iff t.fitsLayout_numbers t'.fitsLayout_numbers, lt_iff_numbers]
  have hyear := h.1
  have hyear' := h'.1
  have hlt : t.year.toNat < t'.year.toNat ↔ t.year < t'.year := by omega
  have heq : t.year.toNat = t'.year.toNat ↔ t.year = t'.year := by omega
  rw [hlt, heq]

/-- So they are with one text possibly the other. -/
theorem text_le_iff {t t' : Timestamp} (h : t.HasPlainYear) (h' : t'.HasPlainYear) :
    encodeUtf8 t.text ≤ encodeUtf8 t'.text ↔ t.wholeMicroseconds ≤ t'.wholeMicroseconds := by
  rw [← List.not_lt, encodeUtf8_text_lt_iff h' h, not_lt_iff_le]

/-! ### Years with a sign -/

/-- Whether a text starts with the sign of a year, the digits of the year, at least four of them,
    and a hyphen. -/
def StartsSigned (year : Int) (text : String) : Prop :=
  ∃ digits rest : List Char,
    text.toList = (if year < 0 then '-' else '+') :: (digits ++ '-' :: rest) ∧
      4 ≤ digits.length ∧ (∀ c ∈ digits, c.isDigit) ∧
      Nat.ofDigitChars 10 digits 0 = year.natAbs

/-- The text of a time in any other year starts with a sign. -/
theorem startsSigned_text {t : Timestamp} (h : ¬ t.HasPlainYear) :
    StartsSigned t.year t.text := by
  obtain ⟨rest, hrest⟩ : ∃ rest, fieldsText layout t.numbers = '-' :: rest := ⟨_, rfl⟩
  refine ⟨padded 4 t.year.natAbs, rest, ?_, ?_, fun _ => isDigit_of_mem_padded,
    ofDigitChars_padded 4 _⟩
  · have hyear : ¬ (0 ≤ t.year ∧ t.year ≤ 9999) := h
    rw [toList_text, yearText, if_neg hyear, hrest, List.cons_append]
  · rw [padded, length_padLeft]
    exact Nat.le_max_left _ _

/-- No time in a year with a sign has the text of one in a year without. -/
theorem HasPlainYear.text_ne {t t' : Timestamp} (h : t.HasPlainYear) (h' : ¬ t'.HasPlainYear) :
    t'.text ≠ t.text := by
  intro heq
  have hyear : t'.year = t.year := (text_eq_iff.1 heq).1
  exact h' (by rwa [HasPlainYear, hyear])

end SovdConfig.Timestamp
