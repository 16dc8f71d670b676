import SovdConfig.Mismatch
import SovdConfig.Number.Digits
import SovdConfig.Number.Numeral
import SovdConfig.Yaml.Token

namespace SovdConfig.Yaml

/-!
# What scalars stand for

Main definitions:

* `Plain` — the values that scalars stand for;
* `Plain.ofText` — what a text without quotes and without a tag stands for;
* `Plain.ofScalar` — what a scalar stands for, its style and its tag being given.

A text in quotes stands for itself.  Other texts may be words for an empty value or a truth value,
or numbers; digits with a leading zero are no number.
-/

/-- What a scalar stands for. -/
inductive Plain
  | nothing
  | boolean (b : Bool)
  /-- An integer without a minus sign. -/
  | natural (n : Nat)
  /-- An integer with a minus sign. -/
  | signed (n : Int)
  | double (x : Binary64)
  | text (s : String)
deriving DecidableEq, Repr

namespace Plain

/-- Whether the text is a word for the empty value. -/
def isNothing (text : String) : Bool :=
  text = "" || text = "null" || text = "Null" || text = "NULL" || text = "~"

/-- The truth value of a word. -/
def boolean? (text : String) : Option Bool :=
  if text = "true" ∨ text = "True" ∨ text = "TRUE" then some true
  else if text = "false" ∨ text = "False" ∨ text = "FALSE" then some false
  else none

/-! ### Integers -/

/-- The value of a digit of a number system up to base sixteen. -/
def digitIn? (base : Nat) (c : Char) : Option Nat :=
  let value :=
    if c.isDigit then c.toNat - 0x30
    else if 'a' ≤ c ∧ c ≤ 'f' then c.toNat - 0x61 + 10
    else if 'A' ≤ c ∧ c ≤ 'F' then c.toNat - 0x41 + 10
    else base
  if value < base then some value else none

/-- The value of digits, at least one. -/
def digitsIn? (base : Nat) (cs : List Char) : Option Nat :=
  if cs = [] then none
  else (cs.mapM (digitIn? base)).map fun digits => digits.foldl (fun n d => base * n + d) 0

/-- Whether the text is digits with a leading zero, after an optional sign. -/
def isPadded (cs : List Char) : Bool :=
  let digits := match cs with
    | '-' :: rest | '+' :: rest => rest
    | cs => cs
  2 ≤ digits.length && digits.head? == some '0' && digits.all Char.isDigit

/-- The value of a number in base sixteen, eight, two or, without a mark, ten. -/
def magnitude? (cs : List Char) : Option Nat :=
  match cs with
  | '0' :: 'x' :: rest => digitsIn? 16 rest
  | '0' :: 'o' :: rest => digitsIn? 8 rest
  | '0' :: 'b' :: rest => digitsIn? 2 rest
  | cs => if isPadded cs then none else digitsIn? 10 cs

/-- The integer that a text denotes, if it has at most 128 bits. -/
def integer? (cs : List Char) : Option Plain :=
  match cs with
  | '-' :: rest =>
    ((magnitude? rest).filter fun n => fitsSigned 128 (-(n : Int))).map fun n => signed (-(n : Int))
  | '+' :: rest => ((magnitude? rest).filter (fitsUnsigned 128)).map natural
  | cs => ((magnitude? cs).filter (fitsUnsigned 128)).map natural

/-- The natural number of 64 bits that a text denotes. -/
def word? (text : String) : Option Nat :=
  match integer? text.toList with
  | some (natural n) => if fitsUnsigned 64 n then some n else none
  | _ => none

/-! ### Doubles -/

/-- The double that a text denotes: a word, or a decimal that is not too great. -/
def double? (text : String) : Option Binary64 :=
  let unsigned := match text.toList with
    | '+' :: rest => String.ofList rest
    | _ => text
  if [".inf", ".Inf", ".INF"].contains unsigned then some (.infinity false)
  else if ["-.inf", "-.Inf", "-.INF"].contains text then some (.infinity true)
  else if [".nan", ".NaN", ".NAN"].contains text then some .nan
  -- only one sign may stand in front
  else if unsigned ≠ text ∧ (unsigned.toList.head? == some '+' ∨ unsigned.toList.head? == some '-')
  then none
  else (Numeral.double? unsigned.toList).filter Binary64.isFinite

/-! ### Scalars -/

/-- What a text without quotes stands for. -/
def ofText (text : String) : Plain :=
  if isNothing text then nothing
  else match boolean? text with
  | some b => boolean b
  | none =>
    match integer? text.toList with
    | some n => n
    | none =>
      -- digits with a leading zero would be a number to the reader of doubles
      if isPadded text.toList then .text text
      else match double? text with
        | some x => double x
        | none => .text text

/-- The tag of one of the types that need no declaration. -/
def coreTag (name : String) : String := "tag:yaml.org,2002:" ++ name

/-- What a text stands for that is tagged with a type, or the mismatch. -/
def tagged? (text : String) (tag : String) : Option (Except Mismatch Plain) :=
  let checked (value : Option Plain) (expected : String) : Except Mismatch Plain :=
    match value with
    | some v => .ok v
    | none => .error (.value (.string text) expected)
  if tag = coreTag "bool" then some (checked ((boolean? text).map boolean) "a boolean")
  else if tag = coreTag "int" then some (checked (integer? text.toList) "an integer")
  else if tag = coreTag "float" then some (checked ((double? text).map double) "a float")
  else if tag = coreTag "null" then
    some (checked (if isNothing text ∧ text ≠ "" then some nothing else none) "null")
  else none

/-- What a scalar stands for. -/
def ofScalar (tag : Option String) (content : String) (style : ScalarStyle) :
    Except Mismatch Plain :=
  let isLocal := tag.all (·.startsWith "!")
  match tag.bind (tagged? content) with
  | some result => result
  -- a tag of another type, like quotes, makes it a text
  | none => .ok (if isLocal ∧ style = .plain then ofText content else text content)

/-- What was found where something else was expected. -/
def found : Plain → Found
  | nothing => .nothing "unit value"
  | boolean b => .boolean b
  | natural n =>
    if fitsUnsigned 64 n then .integer (decimalText n)
    else .named ("integer " ++ Found.ticked (decimalText n) ++ " as u128")
  | signed n =>
    if fitsSigned 64 n then .integer (integerText n)
    else .named ("integer " ++ Found.ticked (integerText n) ++ " as i128")
  | double x => .double (x.text .pointed)
  | text s => .string s

end Plain

end SovdConfig.Yaml
