import SovdConfig.Text.CaseTable

namespace SovdConfig.Text

/-!
# Lower-casing

The full Unicode lower-case of a text.  Two rules go beyond a character-by-character table: U+0130
becomes two characters, and a capital sigma becomes its final form at the end of a word.  Main
definitions:

* `lowerCode` — the table look-up;
* `lowerChar` — the lower-case of one character away from the sigma rule;
* `lowercase` — the lower-case of a text.
-/

/-- Whether the run moves the code point. -/
def LowerRun.covers (run : LowerRun) (code : Nat) : Bool :=
  decide (run.first ≤ code ∧ code ≤ run.last ∧ (code - run.first) % run.step = 0)

/-- The code point that the table maps this one to; itself if the table is silent. -/
def lowerCode (code : Nat) : Nat :=
  match lowerRuns.find? (·.covers code) with
  | some run => (code + run.shift).toNat
  | none => code

/-- The lower-case of one character, wherever it stands. -/
def lowerChar (c : Char) : List Char :=
  if c = '\u0130' then ['i', '\u0307'] else [Char.ofNat (lowerCode c.toNat)]

/-- Whether the character has a case. -/
def isCased (c : Char) : Bool := CodeRange.covers casedRanges c.toNat

/-- Whether the character is looked through when the end of a word is sought. -/
def isCaseIgnorable (c : Char) : Bool := CodeRange.covers caseIgnorableRanges c.toNat

/-- Whether the first character that is not looked through has a case. -/
def meetsCased (cs : List Char) : Bool :=
  match cs.dropWhile isCaseIgnorable with
  | c :: _ => isCased c
  | [] => false

/-- A capital sigma takes its final form if letters come before it, nearest first in `before`, and
    none come after it. -/
def lowerSigma (before after : List Char) : Char :=
  if meetsCased before && !meetsCased after then 'ς' else 'σ'

/-- The lower-case of the characters, given those that precede them, nearest first. -/
def lowerFrom (before : List Char) : List Char → List Char
  | [] => []
  | c :: after =>
    (if c = 'Σ' then [lowerSigma before after] else lowerChar c) ++ lowerFrom (c :: before) after

/-- The lower-case of a text. -/
def lowercase (text : String) : String :=
  String.ofList (lowerFrom [] text.toList)

end SovdConfig.Text
