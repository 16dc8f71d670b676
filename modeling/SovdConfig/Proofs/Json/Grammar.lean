import SovdConfig.Json.Numeral
import SovdConfig.Json.Quoted
import SovdConfig.Proofs.Toml.Grammar

namespace SovdConfig.Json

/-!
# The grammar of JSON texts

Which texts are JSON and which value each of them denotes.  Main definitions:

* `Literal`, `Literal.number?` — numbers as they are written, and the numbers that stand for them;
* `Tree` — a value as it is written: members in their order, repeated names and all;
* `Tree.depth` — how deep containers are nested in it;
* `Denotes` — the texts of values, blank space around them apart.

The productions know nothing of the reader.  A string is a sequence of characters: an escape of a
surrogate stands only in a pair, and a text with a lone one denotes no value.
-/

open Numeral (valueOf)
open Toml (IsDigitOf)

/-! ### Values as they are written -/

/-- A number as it is written: its sign, the digits before and after its point, and the sign and the
    digits of its power of ten. -/
structure Literal where
  negative : Bool
  whole : List Char
  fraction : List Char
  exponent : Option (Bool × List Char)
deriving DecidableEq, Repr

/-- A value as it is written. -/
inductive Tree
  | null
  | bool (b : Bool)
  | number (l : Literal)
  | string (s : String)
  | array (items : List Tree)
  | object (members : List (String × Tree))
deriving Repr, Inhabited

namespace Tree

mutual

/-- How many containers are nested in each other. -/
def depth : Tree → Nat
  | array items => 1 + depthAll items
  | object members => 1 + depthMembers members
  | _ => 0

/-- The greatest depth of the items of a list. -/
def depthAll : List Tree → Nat
  | [] => 0
  | v :: rest => max v.depth (depthAll rest)

/-- The greatest depth of the values of members. -/
def depthMembers : List (String × Tree) → Nat
  | [] => 0
  | (_, v) :: rest => max v.depth (depthMembers rest)

end

/-- No item is deeper than all of them together. -/
theorem depth_le_depthAll {items : List Tree} {v : Tree} (h : v ∈ items) :
    v.depth ≤ depthAll items := by
  induction items with
  | nil => simp at h
  | cons w rest ih =>
    rw [depthAll]
    rcases List.mem_cons.1 h with rfl | h
    · exact Nat.le_max_left _ _
    · exact Nat.le_trans (ih h) (Nat.le_max_right _ _)

/-- Nor is the value of a member. -/
theorem depth_le_depthMembers {members : List (String × Tree)} {m : String × Tree}
    (h : m ∈ members) : m.2.depth ≤ depthMembers members := by
  induction members with
  | nil => simp at h
  | cons w rest ih =>
    obtain ⟨name, w⟩ := w
    rw [depthMembers]
    rcases List.mem_cons.1 h with rfl | h
    · exact Nat.le_max_left _ _
    · exact Nat.le_trans (ih h) (Nat.le_max_right _ _)

end Tree

/-! ### Numbers that stand for literals -/

namespace Literal

/-- The number of those leading digits that fit 64 bits. -/
def kept (l : Literal) : Nat := (keepDigits (keepDigits 0 l.whole).1 l.fraction).1

/-- The power of ten of the last digit that is kept, the exponent apart. -/
def place (l : Literal) : Int :=
  (keepDigits 0 l.whole).2.length -
    ((l.fraction.length - (keepDigits (keepDigits 0 l.whole).1 l.fraction).2.length : Nat) : Int)

/-- Whether the literal spells an integer all of whose digits are kept. -/
def isInteger (l : Literal) : Bool :=
  l.fraction.isEmpty && l.exponent.isNone && (keepDigits 0 l.whole).2.isEmpty

/-- An integer of 64 bits.  Zero after a minus sign, and what is less than the least integer, are
    doubles. -/
def integerOf (negative : Bool) (n : Nat) : JsonNumber :=
  if !negative then .integer n
  else if n = 0 ∨ twoPower 63 < n then .double { Binary64.ofNat n with negative := true }
  else .integer (-(n : Int))

/-- The double of a number and a power of ten, if it is finite. -/
def doubleOf? (negative : Bool) (n : Nat) (power : Int) : Option JsonNumber :=
  (scale? (Binary64.ofNat n) power).map fun x => .double { x with negative }

/-- The number that stands for a literal: an integer of 64 bits, or the digits that are kept scaled
    to a double.  There is none if the double is not finite.  Powers of ten beyond 32 bits give
    infinity or zero, whatever the digits are, unless they are zeros. -/
def number? (l : Literal) : Option JsonNumber :=
  if l.isInteger then some (integerOf l.negative l.kept)
  else
    match l.exponent with
    | none => doubleOf? l.negative l.kept l.place
    | some (down, digits) =>
      if exponentLimit < valueOf digits then
        if l.kept ≠ 0 ∧ !down then none else some (.double ⟨l.negative, 0⟩)
      else
        doubleOf? l.negative l.kept
          (if down then l.place - valueOf digits else l.place + valueOf digits)

end Literal

/-! ### Texts -/

/-- Blank space: blanks, tabs and line breaks. -/
def IsBlankText (cs : List Char) : Prop := ∀ c ∈ cs, c = ' ' ∨ c = '\t' ∨ c = '\n' ∨ c = '\r'

/-- No text at all is blank space. -/
@[simp] theorem isBlankText_nil : IsBlankText [] := by simp [IsBlankText]

/-- Decimal digits, at least one. -/
def IsDigitText (cs : List Char) : Prop := cs ≠ [] ∧ ∀ c ∈ cs, c.isDigit

/-- The text of a fraction, with the digits in it. -/
inductive FractionText : List Char → List Char → Prop
  | none : FractionText [] []
  | some {digits : List Char} : IsDigitText digits → FractionText ('.' :: digits) digits

/-- The sign of a power of ten, which may be left out, and whether it is negative. -/
inductive SignText : List Char → Bool → Prop
  | none : SignText [] false
  | plus : SignText ['+'] false
  | minus : SignText ['-'] true

/-- The text of a power of ten, with its sign and its digits. -/
inductive ExponentText : List Char → Option (Bool × List Char) → Prop
  | none : ExponentText [] none
  | some {mark : Char} {sign digits : List Char} {down : Bool} :
    mark = 'e' ∨ mark = 'E' → SignText sign down → IsDigitText digits →
      ExponentText (mark :: (sign ++ digits)) (some (down, digits))

/-- The text of a number: a zero in front is all there is before the point. -/
inductive NumberText : List Char → Literal → Prop
  | mk {negative : Bool} {whole point fraction power : List Char}
      {exponent : Option (Bool × List Char)} :
    IsDigitText whole → (whole.head? = some '0' → whole = ['0']) →
      FractionText point fraction → ExponentText power exponent →
        NumberText ((if negative then ['-'] else []) ++ (whole ++ (point ++ power)))
          ⟨negative, whole, fraction, exponent⟩

/-- Four hexadecimal digits and the number they spell. -/
def HexUnit (cs : List Char) (n : Nat) : Prop :=
  ∃ a b c d x y z w, cs = [a, b, c, d] ∧ IsDigitOf 16 a x ∧ IsDigitOf 16 b y ∧
    IsDigitOf 16 c z ∧ IsDigitOf 16 d w ∧ n = ((x * 16 + y) * 16 + z) * 16 + w

/-- Letters after a backslash, and the characters they stand for. -/
def shortEscapes : List (Char × Char) :=
  [('"', '"'), ('\\', '\\'), ('/', '/'), ('b', '\x08'), ('f', '\x0c'), ('n', '\n'), ('r', '\r'),
   ('t', '\t')]

/-- The ways in which a character of a string is written: as it is, as an escape of one letter, by
    its number, or by the numbers of the two surrogates that stand for it. -/
inductive CharText : List Char → Char → Prop
  | plain {c : Char} : 0x20 ≤ c.toNat → c ≠ '"' → c ≠ '\\' → CharText [c] c
  | short {letter c : Char} : (letter, c) ∈ shortEscapes → CharText ['\\', letter] c
  | unit {cs : List Char} {n : Nat} :
    HexUnit cs n → n < 0xD800 ∨ 0xDFFF < n → CharText ('\\' :: 'u' :: cs) (Char.ofNat n)
  | pair {cs ds : List Char} {high low : Nat} :
    HexUnit cs high → 0xD800 ≤ high ∧ high ≤ 0xDBFF →
      HexUnit ds low → 0xDC00 ≤ low ∧ low ≤ 0xDFFF →
        CharText ('\\' :: 'u' :: (cs ++ '\\' :: 'u' :: ds))
          (Char.ofNat (0x10000 + (high - 0xD800) * 0x400 + (low - 0xDC00)))

/-- What stands between the quotes of a string, and its characters. -/
inductive StringText : List Char → List Char → Prop
  | nil : StringText [] []
  | cons {cs rest text : List Char} {c : Char} :
    CharText cs c → StringText rest text → StringText (cs ++ rest) (c :: text)

/-- Characters that need no escape may stand in a string as they are. -/
theorem StringText.plain {cs : List Char}
    (h : ∀ c ∈ cs, 0x20 ≤ c.toNat ∧ c ≠ '"' ∧ c ≠ '\\') : StringText cs cs := by
  induction cs with
  | nil => exact .nil
  | cons c cs ih =>
    obtain ⟨hspace, hquote, hescape⟩ := h c (by simp)
    exact .cons (.plain hspace hquote hescape) (ih fun d hd => h d (by simp [hd]))

section

variable {α : Type}

/-- What follows an item of a container up to its bracket: further items, each after a comma. -/
inductive TailText (item : List Char → α → Prop) : List Char → List α → Prop
  | done {blank : List Char} : IsBlankText blank → TailText item blank []
  | more {before after cs rest : List Char} {a : α} {as : List α} :
    IsBlankText before → IsBlankText after → item cs a → TailText item rest as →
      TailText item (before ++ ',' :: (after ++ (cs ++ rest))) (a :: as)

/-- What stands between the brackets of a container: items with commas between them. -/
inductive ItemsText (item : List Char → α → Prop) : List Char → List α → Prop
  | none {blank : List Char} : IsBlankText blank → ItemsText item blank []
  | some {blank cs rest : List Char} {a : α} {as : List α} :
    IsBlankText blank → item cs a → TailText item rest as →
      ItemsText item (blank ++ (cs ++ rest)) (a :: as)

/-- The text of a member: its name, a colon and its value. -/
inductive MemberText (value : List Char → α → Prop) : List Char → String × α → Prop
  | mk {name text before after cs : List Char} {a : α} :
    StringText name text → IsBlankText before → IsBlankText after → value cs a →
      MemberText value ('"' :: (name ++ '"' :: (before ++ ':' :: (after ++ cs))))
        (String.ofList text, a)

end

/-- The text of a value without blank space around it. -/
inductive Denotes : List Char → Tree → Prop
  | null : Denotes ['n', 'u', 'l', 'l'] .null
  | true : Denotes ['t', 'r', 'u', 'e'] (.bool true)
  | false : Denotes ['f', 'a', 'l', 's', 'e'] (.bool false)
  | number {cs : List Char} {l : Literal} : NumberText cs l → Denotes cs (.number l)
  | string {cs text : List Char} :
    StringText cs text → Denotes ('"' :: (cs ++ ['"'])) (.string (String.ofList text))
  | array {cs : List Char} {items : List Tree} :
    ItemsText Denotes cs items → Denotes ('[' :: (cs ++ [']'])) (.array items)
  | object {cs : List Char} {members : List (String × Tree)} :
    ItemsText (MemberText Denotes) cs members →
      Denotes ('\x7b' :: (cs ++ ['\x7d'])) (.object members)

/-- A whole text: a value with blank space around it. -/
def TextDenotes (text : String) (v : Tree) : Prop :=
  ∃ before cs after, text.toList = before ++ (cs ++ after) ∧ IsBlankText before ∧
    IsBlankText after ∧ Denotes cs v

end SovdConfig.Json
