import SovdConfig.Number.Power

namespace SovdConfig

/-!
# Double-precision numbers

Binary floating-point numbers of 64 bits, with arithmetic in exact natural numbers so that it can
be reasoned about.  Main definitions:

* `Binary64` — a sign and the other 63 bits, read as one number;
* `Binary64.ofRatio` — the double nearest to a fraction, a tie going to the even neighbour;
* `Binary64.ofDecimal` — the double nearest to a decimal;
* `Binary64.mul`, `Binary64.div` — correctly rounded products and quotients of finite doubles;
* `Binary64.roundToInt` — the nearest integer, a half going away from zero.

Doubles of one sign are ordered as their magnitudes are, so rounding up past the largest
significand of one exponent gives the smallest of the next without a case of its own.
-/

/-- A double: its sign, and its exponent field and fraction as one number.  Magnitudes from
    `infinite` on are infinity and the values that are no number. -/
structure Binary64 where
  negative : Bool
  magnitude : Nat
deriving DecidableEq, Repr

namespace Binary64

/-- The magnitude of infinity. -/
def infinite : Nat := 2047 * twoPower 52

/-- Zero. -/
def zero : Binary64 := ⟨false, 0⟩

/-- A value that is no number. -/
def nan : Binary64 := ⟨false, infinite + twoPower 51⟩

/-- Infinity of the given sign. -/
def infinity (negative : Bool) : Binary64 := ⟨negative, infinite⟩

/-- Whether the double is a number below infinity. -/
def isFinite (x : Binary64) : Bool := decide (x.magnitude < infinite)

/-- Whether the double is no number. -/
def isNaN (x : Binary64) : Bool := decide (infinite < x.magnitude)

/-- The 64 bits. -/
def bits (x : Binary64) : Nat := (if x.negative then twoPower 63 else 0) + x.magnitude

/-- The significand of a finite double. -/
def significand (x : Binary64) : Nat :=
  if x.magnitude / twoPower 52 = 0 then x.magnitude else twoPower 52 + x.magnitude % twoPower 52

/-- The power of two that the significand of a finite double is multiplied by. -/
def exponent (x : Binary64) : Int :=
  if x.magnitude / twoPower 52 = 0 then -1074 else (x.magnitude / twoPower 52 : Nat) - 1075

/-- The numerator of a finite double's absolute value. -/
def numerator (x : Binary64) : Nat := x.significand * twoPower x.exponent.toNat

/-- The denominator of a finite double's absolute value, a power of two. -/
def denominator (x : Binary64) : Nat := twoPower (-x.exponent).toNat

/-- A fraction rounded to the nearest integer, a tie going to the even one. -/
def roundHalfEven (num den : Nat) : Nat :=
  let q := num / den
  let r := num % den
  if 2 * r < den then q
  else if 2 * r = den then q + q % 2
  else q + 1

/-- The power of two below which a double with the value of the fraction has no bits: its last
    significand bit. -/
def lastPlace (num den : Nat) : Int :=
  let low := max (-1074) ((num.log2 : Int) - (den.log2 : Int) - 53)
  if den * twoPower (low + 53).toNat ≤ num * twoPower (-(low + 53)).toNat then low + 1 else low

/-- The double nearest to the fraction `num / den`, a tie going to the even neighbour. -/
def ofRatio (negative : Bool) (num den : Nat) : Binary64 :=
  if num = 0 then ⟨negative, 0⟩
  else
    let place := lastPlace num den
    let q := roundHalfEven (num * twoPower (-place).toNat) (den * twoPower place.toNat)
    ⟨negative, min infinite ((place + 1074).toNat * twoPower 52 + q)⟩

/-- The double nearest to a natural number. -/
def ofNat (n : Nat) : Binary64 := ofRatio false n 1

/-- The number of decimal digits of a natural number. -/
def decimalLength (n : Nat) : Nat := (Nat.toDigits 10 n).length

/-- The double nearest to `digits · 10 ^ power`.  Decimals far outside the range are told by their
    length, so that no huge power is ever computed. -/
def ofDecimal (negative : Bool) (digits : Nat) (power : Int) : Binary64 :=
  if digits = 0 then ⟨negative, 0⟩
  else if 310 < (decimalLength digits : Int) + power then infinity negative
  else if (decimalLength digits : Int) + power < -330 then ⟨negative, 0⟩
  else ofRatio negative (digits * tenPower power.toNat) (tenPower (-power).toNat)

/-- The product of finite doubles. -/
def mul (x y : Binary64) : Binary64 :=
  ofRatio (x.negative != y.negative) (x.numerator * y.numerator) (x.denominator * y.denominator)

/-- The quotient of finite doubles, the second not zero. -/
def div (x y : Binary64) : Binary64 :=
  ofRatio (x.negative != y.negative) (x.numerator * y.denominator) (x.denominator * y.numerator)

/-- The integer nearest to a finite double, a half going away from zero. -/
def roundToInt (x : Binary64) : Int :=
  let n := (2 * x.numerator + x.denominator) / (2 * x.denominator)
  if x.negative then -(n : Int) else n

end Binary64

end SovdConfig
