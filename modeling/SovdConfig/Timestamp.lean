import SovdConfig.Number.Digits

namespace SovdConfig

/-!
# Timestamps

Calendar time to the nanosecond, as it is printed into generated files and into logs.  Main
definitions:

* `Timestamp` — a calendar date and a time of day that exist;
* `Timestamp.ofFields?` — the timestamp of given fields, if it exists;
* `Timestamp.text` — year, month and day, time of day, microseconds;
* `Timestamp.utcText` — the same without fractions of a second, for a time in UTC.

A leap second is second 59 with a nanosecond part of a whole second or more; it prints as
second 60.
-/

/-- Whether a year has a leap day. -/
def isLeapYear (year : Int) : Bool :=
  year % 4 = 0 && (year % 100 ≠ 0 || year % 400 = 0)

/-- The number of days of a month. -/
def daysInMonth (year : Int) (month : Nat) : Nat :=
  if month = 2 then if isLeapYear year then 29 else 28
  else if month = 4 ∨ month = 6 ∨ month = 9 ∨ month = 11 then 30
  else 31

/-- The fields are those of a time that exists, within the years that are supported. -/
def Timestamp.Valid (year : Int) (month day hour minute second nanosecond : Nat) : Prop :=
  (-262143 ≤ year ∧ year ≤ 262142) ∧ (1 ≤ month ∧ month ≤ 12) ∧
    (1 ≤ day ∧ day ≤ daysInMonth year month) ∧ hour < 24 ∧ minute < 60 ∧ second < 60 ∧
    (nanosecond < 1000000000 ∨ second = 59 ∧ nanosecond < 2000000000)

instance (year : Int) (month day hour minute second nanosecond : Nat) :
    Decidable (Timestamp.Valid year month day hour minute second nanosecond) := by
  unfold Timestamp.Valid; infer_instance

/-- A date and a time of day. -/
structure Timestamp where
  year : Int
  month : Nat
  day : Nat
  hour : Nat
  minute : Nat
  second : Nat
  nanosecond : Nat
  valid : Timestamp.Valid year month day hour minute second nanosecond
deriving DecidableEq

namespace Timestamp

/-- The timestamp of the given fields, if it exists. -/
def ofFields? (year : Int) (month day hour minute second nanosecond : Nat) : Option Timestamp :=
  if h : Valid year month day hour minute second nanosecond then
    some ⟨year, month, day, hour, minute, second, nanosecond, h⟩
  else none

/-- The start of the year 2000. -/
def year2000 : Timestamp := ⟨2000, 1, 1, 0, 0, 0, 0, by decide⟩

instance : Inhabited Timestamp := ⟨year2000⟩

/-- A number with zeros in front, up to a width. -/
def padded (width n : Nat) : List Char := padLeft width (Nat.toDigits 10 n)

/-- Four digits from the year 0 to the year 9999, otherwise a sign and at least four digits. -/
def yearText (year : Int) : List Char :=
  if 0 ≤ year ∧ year ≤ 9999 then padded 4 year.toNat
  else (if year < 0 then '-' else '+') :: padded 4 year.natAbs

/-- The second as it is printed: 60 in a leap second. -/
def printedSecond (t : Timestamp) : Nat := t.second + t.nanosecond / 1000000000

/-- The microseconds of the second, what is less being cut off. -/
def microsecond (t : Timestamp) : Nat := t.nanosecond % 1000000000 / 1000

/-- The characters of date and time of day down to the second. -/
def secondChars (t : Timestamp) : List Char :=
  yearText t.year ++ '-' :: padded 2 t.month ++ '-' :: padded 2 t.day ++
    'T' :: padded 2 t.hour ++ ':' :: padded 2 t.minute ++ ':' :: padded 2 t.printedSecond

/-- Date and time of day down to the microsecond. -/
def text (t : Timestamp) : String :=
  String.ofList (t.secondChars ++ '.' :: padded 6 t.microsecond)

/-- Padded numbers are digits. -/
theorem isDigit_of_mem_padded {width n : Nat} {c : Char} (h : c ∈ padded width n) :
    c.isDigit := by
  rcases List.mem_append.1 h with h | h
  · rw [List.eq_of_mem_replicate h]; rfl
  · exact Nat.isDigit_of_mem_toDigits (by decide) (by decide) h

/-- A printed time is digits and a few marks, all of one line. -/
theorem mem_text {t : Timestamp} {c : Char} (h : c ∈ t.text.toList) :
    c.isDigit ∨ c ∈ ['+', '-', '.', ':', 'T'] := by
  have hdigit : ∀ {width n : Nat}, c ∈ padded width n → c.isDigit := isDigit_of_mem_padded
  have hyear : c ∈ yearText t.year → c.isDigit ∨ c ∈ ['+', '-'] := by
    intro h
    unfold yearText at h
    split at h
    · exact .inl (hdigit h)
    · rcases List.mem_cons.1 h with h | h
      · split at h <;> simp [h]
      · exact .inl (hdigit h)
  simp only [text, secondChars, String.toList_ofList, List.mem_append, List.mem_cons] at h
  grind

/-- Date and time of day down to the second, for a time in UTC. -/
def utcText (t : Timestamp) : String := String.ofList (t.secondChars ++ ['Z'])

end Timestamp

end SovdConfig
