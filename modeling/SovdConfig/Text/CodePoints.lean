namespace SovdConfig.Text

/-!
# Sets of code points

A property of characters is given as a list of ranges, both ends included.  Main definition:

* `CodeRange.covers` — membership of a code point in such a list.
-/

/-- A range of code points, both ends included. -/
abbrev CodeRange := Nat × Nat

/-- Whether one of the ranges holds the code point. -/
def CodeRange.covers (ranges : List CodeRange) (code : Nat) : Bool :=
  ranges.any fun (first, last) => decide (first ≤ code ∧ code ≤ last)

/-- Membership in a list of ranges, as a statement about one of them. -/
theorem CodeRange.covers_iff {ranges : List CodeRange} {code : Nat} :
    CodeRange.covers ranges code = true ↔ ∃ r ∈ ranges, r.1 ≤ code ∧ code ≤ r.2 := by
  simp [CodeRange.covers]

end SovdConfig.Text
