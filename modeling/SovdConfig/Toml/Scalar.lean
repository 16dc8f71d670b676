import SovdConfig.Toml.Moment
import SovdConfig.Toml.Value

namespace SovdConfig.Toml

/-!
# TOML scalars without quotes

Main definition:

* `scalar?` — the value of a bare word: a truth value, a number, a date or a time.

Integers have 64 bits; digits may be parted by single underscores; a number has no leading zeros.
-/

/-- Digits of a base, parted by single underscores, without them. -/
def groupedDigits? (isDigit : Char → Bool) : List Char → Option (List Char)
  | [] => none
  | [c] => if isDigit c then some [c] else none
  | c :: '_' :: rest =>
    if isDigit c then (groupedDigits? isDigit rest).map (c :: ·) else none
  | c :: rest => if isDigit c then (groupedDigits? isDigit rest).map (c :: ·) else none

/-- Decimal digits without a leading zero. -/
def wholeDigits? (cs : List Char) : Option (List Char) :=
  match groupedDigits? Char.isDigit cs with
  -- a zero by itself is no leading one
  | some ('0' :: _ :: _) => none
  | digits => digits

/-- The value of a digit in bases up to sixteen. -/
def baseDigit? (base : Nat) (c : Char) : Option Nat :=
  let value? : Option Nat :=
    if c.isDigit then some (c.toNat - 0x30)
    else if 'a' ≤ c ∧ c ≤ 'f' then some (c.toNat - 0x57)
    else if 'A' ≤ c ∧ c ≤ 'F' then some (c.toNat - 0x37)
    else none
  value?.filter (· < base)

/-- An integer of 64 bits. -/
def inRange? (n : Int) : Option Toml :=
  if fitsSigned 64 n then some (.integer n) else none

/-- An integer of the given base, without sign. -/
def basedInteger? (base : Nat) (cs : List Char) : Option Toml := do
  let digits ← groupedDigits? (fun c => (baseDigit? base c).isSome) cs
  let value := digits.foldl (fun n c => n * base + (baseDigit? base c).getD 0) 0
  inRange? value

/-- The power of ten of a number, its letter and sign included, without underscores. -/
def exponentDigits? : List Char → Option (List Char)
  | [] => some []
  | e :: rest =>
    if e = 'e' ∨ e = 'E' then
      match rest with
      | '+' :: digits => (groupedDigits? Char.isDigit digits).map ('e' :: ·)
      | '-' :: digits => (groupedDigits? Char.isDigit digits).map ('e' :: '-' :: ·)
      | digits => (groupedDigits? Char.isDigit digits).map ('e' :: ·)
    else none

/-- Whether a number goes on after this character as one without point and exponent does. -/
def isWholePart (c : Char) : Bool := c.isDigit || c = '_'

/-- A decimal number after its sign. -/
def decimal? (negative : Bool) (cs : List Char) : Option Toml := do
  let whole ← wholeDigits? (cs.takeWhile isWholePart)
  match cs.dropWhile isWholePart with
  | [] =>
    let value : Int := Numeral.valueOf whole
    inRange? (if negative then -value else value)
  | '.' :: rest =>
    let fraction ← groupedDigits? Char.isDigit (rest.takeWhile isWholePart)
    let power ← exponentDigits? (rest.dropWhile isWholePart)
    let value ← Numeral.decimal? negative (whole ++ '.' :: fraction ++ power)
    if value.isFinite then some (.double value) else none
  | rest =>
    let power ← exponentDigits? rest
    let value ← Numeral.decimal? negative (whole ++ power)
    if value.isFinite then some (.double value) else none

/-- A number with an optional sign, or a word for infinity or for no number. -/
def signed? (cs : List Char) : Option Toml :=
  let (negative, rest) := Numeral.splitSign cs
  if rest = ['i', 'n', 'f'] then some (.double (.infinity negative))
  else if rest = ['n', 'a', 'n'] then some (.double { Binary64.nan with negative })
  else decimal? negative rest

/-- The value of a bare word. -/
def scalar? (cs : List Char) : Option Toml :=
  match moment? cs with
  | some text => some (.moment (String.ofList text))
  | none =>
    match cs with
    | ['t', 'r', 'u', 'e'] => some (.boolean true)
    | ['f', 'a', 'l', 's', 'e'] => some (.boolean false)
    | '0' :: 'x' :: digits => basedInteger? 16 digits
    | '0' :: 'o' :: digits => basedInteger? 8 digits
    | '0' :: 'b' :: digits => basedInteger? 2 digits
    | _ => signed? cs

end SovdConfig.Toml
