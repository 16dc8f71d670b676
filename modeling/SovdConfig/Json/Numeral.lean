import SovdConfig.Json.Value
import SovdConfig.Json.Fault
import SovdConfig.Number.Numeral

namespace SovdConfig.Json

/-!
# JSON numbers

Main definitions:

* `scale?` — a double times a power of ten, in single steps;
* `readNumber` — a number after its sign;
* `skipNumber` — the end of a number that is not wanted.

Integers of 64 bits are exact.  Of any other number those leading digits are kept that fit
64 bits, the rest only count, and the value is found by one or more correctly rounded
multiplications or divisions by a power of ten.  So it can differ from the nearest double.
-/

open SovdConfig.Numeral (spanDigits digitValue valueOf)

/-- The greatest natural number of 64 bits. -/
def integerLimit : Nat := twoPower 64 - 1

/-- Digits are appended to a number as long as it stays within the limit; those left over are
    returned. -/
def keepDigits (n : Nat) : List Char → Nat × List Char
  | [] => (n, [])
  | c :: rest =>
    let next := 10 * n + digitValue c
    if next ≤ integerLimit then keepDigits next rest else (n, c :: rest)

/-- The greatest power of ten that is used in one step. -/
def stepLimit : Nat := 308

/-- The double nearest to a power of ten. -/
def powerOfTen (k : Nat) : Binary64 := Binary64.ofNat (tenPower k)

/-- A double divided by a power of ten; above the limit of one step this takes several. -/
def shrink (k : Nat) (x : Binary64) : Binary64 :=
  if k ≤ stepLimit then x.div (powerOfTen k)
  else if x.magnitude = 0 then x
  else shrink (k - stepLimit) (x.div (powerOfTen stepLimit))
termination_by k
decreasing_by simp only [stepLimit] at *; omega

/-- A double times a power of ten, if it is not too large. -/
def scale? (x : Binary64) (power : Int) : Option Binary64 :=
  if power < 0 then some (shrink power.natAbs x)
  else if power ≤ stepLimit then
    let y := x.mul (powerOfTen power.toNat)
    if y.isFinite then some y else none
  else if x.magnitude = 0 then some x
  else none

/-- The double of a kept number and a power of ten, read before the given text. -/
def doubleOf (negative : Bool) (kept : Nat) (power : Int) (rest : List Char) :
    Except Failure (JsonNumber × List Char) :=
  match scale? (Binary64.ofNat kept) power with
  | some x => .ok (.double { x with negative }, rest)
  | none => .error (.before .numberTooLarge rest)

/-- Whether a text starts with a letter that introduces a power of ten. -/
def startsExponent : List Char → Bool
  | c :: _ => c = 'e' || c = 'E'
  | [] => false

/-- The sign of a power of ten, negative or not, and the rest. -/
def exponentSign : List Char → Bool × List Char
  | '+' :: rest => (false, rest)
  | '-' :: rest => (true, rest)
  | cs => (false, cs)

/-- The greatest power of ten that is read as a number. -/
def exponentLimit : Nat := twoPower 31 - 1

/-- How many digits of a power of ten it takes to pass the limit, if they do. -/
def digitsToPass (n : Nat) : List Char → Option Nat
  | [] => none
  | c :: rest =>
    let next := 10 * n + digitValue c
    if exponentLimit < next then some 1 else (digitsToPass next rest).map (· + 1)

/-- A power of ten after its letter, for the number kept so far. -/
def readExponent (negative : Bool) (kept : Nat) (power : Int) : Reader JsonNumber := fun cs =>
  let (down, rest) := exponentSign cs
  let (digits, tail) := spanDigits rest
  match digits, rest with
  | [], [] => .error (.before .endInValue [])
  | [], _ :: _ => .error (.after .badNumber rest)
  | _ :: _, _ =>
    match digitsToPass 0 digits with
    | some count =>
      -- such a power leaves zero as it is, and takes any number to zero if it is negative
      if kept ≠ 0 ∧ !down then .error (.before .numberTooLarge (rest.drop count))
      else .ok (.double ⟨negative, 0⟩, tail)
    | none =>
      let value : Int := valueOf digits
      doubleOf negative kept (if down then power - value else power + value) tail

/-- The part of a number after its point. -/
def readFraction (negative : Bool) (kept : Nat) (power : Int) : Reader JsonNumber := fun cs =>
  let (digits, rest) := spanDigits cs
  match digits, cs with
  | [], [] => .error (.before .endInValue [])
  | [], _ :: _ => .error (.after .badNumber cs)
  | _ :: _, _ =>
    let (kept, dropped) := keepDigits kept digits
    let power := power - ((digits.length - dropped.length : Nat) : Int)
    if startsExponent rest then readExponent negative kept power rest.tail
    else doubleOf negative kept power rest

/-- The number whose whole part has been read: an integer if nothing else follows and it fits. -/
def readAfterWhole (negative : Bool) (kept dropped : Nat) : Reader JsonNumber := fun rest =>
  match rest with
  | '.' :: rest => readFraction negative kept dropped rest
  | _ =>
    if startsExponent rest then readExponent negative kept dropped rest.tail
    else if dropped ≠ 0 then doubleOf negative kept dropped rest
    else if !negative then .ok (.integer kept, rest)
    -- a negative zero is no integer, and one below the least of 64 bits does not fit
    else if kept = 0 ∨ twoPower 63 < kept then
      .ok (.double { Binary64.ofNat kept with negative := true }, rest)
    else .ok (.integer (-(kept : Int)), rest)

/-- A number after its sign. -/
def readNumber (negative : Bool) : Reader JsonNumber := fun cs =>
  match cs with
  | [] => .error (.before .endInValue [])
  | c :: rest =>
    if c = '0' then
      match rest with
      | d :: _ =>
      -- a number does not go on after a leading zero
      if d.isDigit then .error (.after .badNumber rest) else readAfterWhole negative 0 0 rest
      | [] => readAfterWhole negative 0 0 rest
    else if c.isDigit then
      let (digits, tail) := spanDigits cs
      let (kept, dropped) := keepDigits 0 digits
      readAfterWhole negative kept dropped.length tail
    else .error (.after .badNumber cs)

/-- The end of a power of ten that is not wanted, after its letter. -/
def skipExponent (cs : List Char) : Except Failure (List Char) :=
  let rest := (exponentSign cs).2
  match spanDigits rest with
  | ([], _) => .error (if rest.isEmpty then .before .badNumber [] else .after .badNumber rest)
  | (_ :: _, tail) => .ok tail

/-- The end of a number that is not wanted, after its sign. -/
def skipNumber (cs : List Char) : Except Failure (List Char) := do
  let rest ← match cs with
    | [] => .error (.before .badNumber [])
    | c :: rest =>
      if c = '0' then
        match rest with
        | d :: _ => if d.isDigit then .error (.after .badNumber rest) else .ok rest
        | [] => .ok rest
      else if c.isDigit then .ok (spanDigits cs).2
      else .error (.after .badNumber cs)
  match rest with
  | '.' :: rest =>
    match spanDigits rest with
    | ([], _) => .error (.after .badNumber rest)
    | (_ :: _, tail) => if startsExponent tail then skipExponent tail.tail else .ok tail
  | _ => if startsExponent rest then skipExponent rest.tail else .ok rest

end SovdConfig.Json
