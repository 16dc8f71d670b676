import SovdConfig.Number.Binary64

namespace SovdConfig

/-!
# Numbers written as text

Main definitions:

* `Numeral.digits?` — a run of decimal digits, at least one;
* `Numeral.integer?` — an optional sign and digits;
* `Numeral.natural?` — an optional plus sign and digits;
* `Numeral.double?` — a decimal with optional point and exponent, or a word for infinity or for no
  number.

All of them read the whole text.  Ranges are left to the user of the number.
-/

namespace Numeral

/-- The value of a digit character. -/
def digitValue (c : Char) : Nat := c.toNat - '0'.toNat

/-- The value of decimal digits, most significant first. -/
def valueOf (digits : List Char) : Nat :=
  digits.foldl (fun n c => 10 * n + digitValue c) 0

/-- The value of a text of decimal digits, at least one. -/
def digits? (text : List Char) : Option Nat :=
  if text ≠ [] ∧ text.all Char.isDigit then some (valueOf text) else none

/-- The sign in front of a number, and the rest. -/
def splitSign : List Char → Bool × List Char
  | '-' :: rest => (true, rest)
  | '+' :: rest => (false, rest)
  | text => (false, text)

/-- An optional sign and digits. -/
def integer? (text : List Char) : Option Int :=
  let (negative, rest) := splitSign text
  (digits? rest).map fun n => if negative then -(n : Int) else n

/-- An optional plus sign and digits. -/
def natural? (text : List Char) : Option Nat :=
  match text with
  | '+' :: rest => digits? rest
  | rest => digits? rest

/-- The digits at the start of a text, and the rest. -/
def spanDigits (text : List Char) : List Char × List Char :=
  (text.takeWhile Char.isDigit, text.dropWhile Char.isDigit)

/-- The power of ten after a mantissa: nothing, or `e` and an integer. -/
def exponent? : List Char → Option Int
  | [] => some 0
  | c :: rest => if c = 'e' ∨ c = 'E' then integer? rest else none

/-- A decimal without sign: digits around an optional point, at least one in all, and an optional
    power of ten. -/
def decimal? (negative : Bool) (text : List Char) : Option Binary64 :=
  let (whole, rest) := spanDigits text
  let (fraction, tail) := match rest with
    | '.' :: after => spanDigits after
    | _ => ([], rest)
  if whole = [] ∧ fraction = [] then none
  else (exponent? tail).map fun power =>
    Binary64.ofDecimal negative (valueOf (whole ++ fraction)) (power - (fraction.length : Int))

/-- A double: an optional sign, then a decimal or one of the words `inf`, `infinity` and `nan` in
    any letter case. -/
def double? (text : List Char) : Option Binary64 :=
  let (negative, rest) := splitSign text
  let word := String.ofList (rest.map Char.toLower)
  if word = "inf" ∨ word = "infinity" then some (Binary64.infinity negative)
  else if word = "nan" then some { Binary64.nan with negative }
  else decimal? negative rest

end Numeral

end SovdConfig
