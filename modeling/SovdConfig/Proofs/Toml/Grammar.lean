import Mathlib.Data.List.ReduceOption
import SovdConfig.Toml.Reader

namespace SovdConfig.Toml

/-!
# Plain TOML documents

The part of the grammar of TOML 1.0 in which documents are generated: every line is blank, a
comment, the header of a table, or one bare key with a string without escapes or an integer.
Main definitions:

* `DigitRun`, `IntegerLiteral` — how integers are spelled, and the integers they denote;
* `PlainValue`, `PlainLine` — the values and the lines, and what they say;
* `PlainDocument` — the texts, and the statements they make.

The definitions follow the productions of the grammar and know nothing of the reader, so that a
text of this form is well formed whatever else the reader accepts.
-/

/-- A digit of a base up to sixteen, in upper or lower case, and its value. -/
def IsDigitOf (base : Nat) (c : Char) (d : Nat) : Prop :=
  d < base ∧ (c = Nat.digitChar d ∨ c = (Nat.digitChar d).toUpper)

/-- Digits of a base, with at most one underscore between two of them, and the number they
    spell. -/
inductive DigitRun (base : Nat) : List Char → Nat → Prop
  | one {c : Char} {d : Nat} : IsDigitOf base c d → DigitRun base [c] d
  | next {cs : List Char} {n : Nat} {c : Char} {d : Nat} :
    DigitRun base cs n → IsDigitOf base c d → DigitRun base (cs ++ [c]) (n * base + d)
  | group {cs : List Char} {n : Nat} {c : Char} {d : Nat} :
    DigitRun base cs n → IsDigitOf base c d → DigitRun base (cs ++ ['_', c]) (n * base + d)

/-- Decimal digits without a zero in front, and the number they spell. -/
def DecimalRun (cs : List Char) (n : Nat) : Prop :=
  DigitRun 10 cs n ∧ (cs.head? = some '0' → cs = ['0'])

/-- An integer as TOML 1.0 spells it in base ten or sixteen, and the integer it denotes. -/
inductive IntegerLiteral : List Char → Int → Prop
  | unsigned {cs : List Char} {n : Nat} : DecimalRun cs n → IntegerLiteral cs n
  | plus {cs : List Char} {n : Nat} : DecimalRun cs n → IntegerLiteral ('+' :: cs) n
  | minus {cs : List Char} {n : Nat} : DecimalRun cs n → IntegerLiteral ('-' :: cs) (-n)
  | hex {cs : List Char} {n : Nat} : DigitRun 16 cs n → IntegerLiteral ('0' :: 'x' :: cs) n

/-- Whether a character of a string stands for itself: it is no quote, no backslash and no control
    character other than the tab. -/
def IsUnescaped (c : Char) : Prop := isPlain c ∧ c ≠ '"' ∧ c ≠ '\\'

/-- A text whose characters all stand for themselves between quotes. -/
def IsUnescapedText (text : String) : Prop := ∀ c ∈ text.toList, IsUnescaped c

/-- A string without escapes or an integer of 64 bits, and the value it denotes. -/
inductive PlainValue : List Char → Toml → Prop
  | string {cs : List Char} :
    (∀ c ∈ cs, IsUnescaped c) → PlainValue ('"' :: (cs ++ ['"'])) (.string (String.ofList cs))
  | integer {cs : List Char} {n : Int} :
    IntegerLiteral cs n → fitsSigned 64 n → PlainValue cs (.integer n)

/-- A key without quotes: at least one ASCII letter, digit, underscore or hyphen. -/
def IsBareKey (key : String) : Prop := key ≠ "" ∧ ∀ c ∈ key.toList, isBareKeyChar c

/-- What holds of all characters of a text is decided on those, not on all characters there are. -/
instance decidableForallMem (p : Char → Prop) [DecidablePred p] (cs : List Char) :
    Decidable (∀ c ∈ cs, p c) :=
  List.decidableBAll p cs

instance (c : Char) : Decidable (IsUnescaped c) := by
  unfold IsUnescaped; infer_instance

instance (text : String) : Decidable (IsUnescapedText text) := by
  unfold IsUnescapedText; infer_instance

instance (key : String) : Decidable (IsBareKey key) := by
  unfold IsBareKey; infer_instance

/-- A line without its line break, and what it says: nothing, or one statement. -/
inductive PlainLine : List Char → Option Statement → Prop
  | blank : PlainLine [] none
  | comment {cs : List Char} : (∀ c ∈ cs, isPlain c) → PlainLine ('#' :: cs) none
  | header {keys : List String} :
    keys ≠ [] → (∀ key ∈ keys, IsBareKey key) →
      PlainLine ('[' :: ((".".intercalate keys).toList ++ [']'])) (some (.header false keys))
  | assign {key : String} {cs : List Char} {v : Toml} :
    IsBareKey key → PlainValue cs v →
      PlainLine (key.toList ++ ' ' :: '=' :: ' ' :: cs) (some (.assign [key] v))

/-- The lines of a document, and what they say one after the other. -/
def PlainLines : List (List Char) → List (Option Statement) → Prop := List.Forall₂ PlainLine

/-- A text of such lines, each closed by a line break, and the statements it makes. -/
def PlainDocument (text : String) (statements : List Statement) : Prop :=
  ∃ lines said, PlainLines lines said ∧
    text.toList = lines.flatMap (· ++ ['\n']) ∧ statements = said.reduceOption

end SovdConfig.Toml
