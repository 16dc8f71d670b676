import SovdConfig.Number.Digits
import SovdConfig.Number.Numeral
import SovdConfig.Timestamp

namespace SovdConfig.Toml

/-!
# Dates and times in TOML

Main definition:

* `moment?` — the normal form of a date, a time, or both, with or without an offset.

The normal form has an upper-case `T` between date and time, an upper-case `Z`, and a fraction of
at most nine digits without zeros at its end.
-/

/-- Two digits with a value up to a limit, and the rest. -/
def twoDigits? (limit : Nat) : List Char → Option (Nat × List Char)
  | a :: b :: rest =>
    if a.isDigit ∧ b.isDigit ∧ Numeral.valueOf [a, b] ≤ limit then
      some (Numeral.valueOf [a, b], rest)
    else none
  | _ => none

/-- The given character, and the rest. -/
def expect? (c : Char) : List Char → Option (List Char)
  | d :: rest => if d = c then some rest else none
  | [] => none

/-- A date that exists, and the rest. -/
def date? (cs : List Char) : Option (List Char × List Char) := do
  let year := cs.take 4
  if year.length ≠ 4 ∨ !year.all Char.isDigit then none
  else
    let rest ← expect? '-' (cs.drop 4)
    let (month, rest) ← twoDigits? 12 rest
    let rest ← expect? '-' rest
    let (day, rest) ← twoDigits? 31 rest
    if month = 0 ∨ day = 0 ∨ daysInMonth (Numeral.valueOf year) month < day then none
    else some (cs.take 10, rest)

/-- The digits of a fraction in normal form. -/
def fractionText (digits : List Char) : List Char :=
  let kept := ((digits.take 9).reverse.dropWhile (· = '0')).reverse
  if kept = [] then ['0'] else kept

/-- The fraction of a second in normal form, if there is one, and the rest. -/
def fraction? : List Char → Option (List Char × List Char)
  | '.' :: rest =>
    match Numeral.spanDigits rest with
    | ([], _) => none
    | (digits, rest) => some ('.' :: fractionText digits, rest)
  | rest => some ([], rest)

/-- A time of day in normal form, with or without seconds, and the rest. -/
def time? (cs : List Char) : Option (List Char × List Char) := do
  let (_, rest) ← twoDigits? 23 cs
  let rest ← expect? ':' rest
  let (_, rest) ← twoDigits? 59 rest
  match rest with
  | ':' :: rest =>
    -- a leap second has the number sixty
    let (_, rest) ← twoDigits? 60 rest
    let (fraction, rest) ← fraction? rest
    return (cs.take 8 ++ fraction, rest)
  | rest => return (cs.take 5, rest)

/-- An offset from universal time in normal form; nothing if there is none. -/
def offset? : List Char → Option (List Char)
  | [] => some []
  | sign :: rest =>
    if sign = 'Z' ∨ sign = 'z' then if rest = [] then some ['Z'] else none
    else if sign = '+' ∨ sign = '-' then do
      let (hours, tail) ← twoDigits? 23 rest
      let tail ← expect? ':' tail
      let (minutes, tail) ← twoDigits? 59 tail
      if tail ≠ [] then none
      -- an offset of zero is written with a plus sign
      else if hours = 0 ∧ minutes = 0 then some ('+' :: rest)
      else some (sign :: rest)
    else none

/-- A date, a time, or a date and a time with an optional offset, in normal form. -/
def moment? (cs : List Char) : Option (List Char) :=
  match date? cs with
  | some (date, []) => some date
  | some (date, separator :: rest) =>
    if separator = 'T' ∨ separator = 't' ∨ separator = ' ' then do
      let (time, rest) ← time? rest
      let offset ← offset? rest
      return date ++ 'T' :: time ++ offset
    else none
  | none =>
    match time? cs with
    | some (time, []) => some time
    | _ => none

end SovdConfig.Toml
