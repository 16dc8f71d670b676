namespace SovdConfig

/-!
# Powers and ranges of integers

Main definitions:

* `twoPower`, `tenPower` — powers of two and of ten;
* `fitsUnsigned`, `fitsSigned` — the integers of so many bits.
-/

/-- A power of two. -/
def twoPower (n : Nat) : Nat := Nat.pow 2 n

/-- A power of ten. -/
def tenPower (n : Nat) : Nat := Nat.pow 10 n

/-- Whether a number has at most so many bits. -/
def fitsUnsigned (bits n : Nat) : Bool := n < twoPower bits

/-- Whether an integer has at most so many bits, one of them for the sign. -/
def fitsSigned (bits : Nat) (n : Int) : Bool :=
  -(twoPower (bits - 1) : Int) ≤ n && n < (twoPower (bits - 1) : Int)

/-- The greatest number of so many bits fits. -/
theorem fitsUnsigned_pred (bits : Nat) : fitsUnsigned bits (twoPower bits - 1) = true := by
  have h : 0 < twoPower bits := Nat.pow_pos (by decide)
  simp [fitsUnsigned]; omega

/-- Numbers of sixteen bits fit 64 bits with a sign. -/
theorem fitsSigned_of_lt {n : Nat} (h : n < 65536) : fitsSigned 64 n := by
  have hpower : twoPower 63 = 9223372036854775808 := rfl
  simp [fitsSigned, hpower]
  omega

end SovdConfig
