import SovdConfig.Json.Fault

namespace SovdConfig.Json

/-!
# JSON strings

Main definitions:

* `quote` — the JSON form of a text;
* `readString` — the text of a JSON string, after its opening quote;
* `skipString` — the end of a JSON string whose text is not wanted, under laxer rules.

A text that is read must pair the surrogates of its escapes; a string that is skipped need not.
-/

/-- One character of a string as it is written. -/
def quoteChar (c : Char) : List Char :=
  if c = '"' then ['\\', '"']
  else if c = '\\' then ['\\', '\\']
  else if c = '\x08' then ['\\', 'b']
  else if c = '\t' then ['\\', 't']
  else if c = '\n' then ['\\', 'n']
  else if c = '\x0c' then ['\\', 'f']
  else if c = '\r' then ['\\', 'r']
  else if c.toNat < 0x20 then '\\' :: 'u' :: padLeft 4 (hexDigits false c.toNat)
  else [c]

/-- The JSON form of a text. -/
def quote (text : String) : String :=
  String.ofList ('"' :: text.toList.flatMap quoteChar ++ ['"'])

/-- The value of a hexadecimal digit. -/
def hexValue? (c : Char) : Option Nat :=
  if c.isDigit then some (c.toNat - 0x30)
  else if 'a' ≤ c ∧ c ≤ 'f' then some (c.toNat - 0x57)
  else if 'A' ≤ c ∧ c ≤ 'F' then some (c.toNat - 0x37)
  else none

/-- The number of four hexadecimal digits, if that is what they are. -/
def hexUnit? (a b c d : Char) : Option Nat := do
  let a ← hexValue? a
  let b ← hexValue? b
  let c ← hexValue? c
  let d ← hexValue? d
  return ((a * 16 + b) * 16 + c) * 16 + d

/-- Four hexadecimal digits.  If they are not there, the text ends or four bytes are refused at
    once. -/
def readHexUnit (cs : List Char) : Except Failure (Nat × List Char) :=
  let refusal : Failure :=
    if bytesOf cs < 4 then .at .endInString 0 else .at .badEscape (bytesOf cs - 4)
  match cs with
  | a :: b :: c :: d :: rest =>
    match hexUnit? a b c d with
    | some n => .ok (n, rest)
    | none => .error refusal
  | _ => .error refusal

/-- The character that is expected next inside an escaped pair. -/
def expectInEscape (c : Char) : List Char → Except Failure (List Char)
  | [] => .error (.at .endInString 0)
  | d :: rest => if d = c then .ok rest else .error (.after .endOfEscape (d :: rest))

/-- The character of a numeric escape, which may need a second escape after it. -/
def readUnicode (cs : List Char) : Except Failure (Char × List Char) := do
  let (high, rest) ← readHexUnit cs
  if 0xDC00 ≤ high ∧ high ≤ 0xDFFF then .error (.before .loneSurrogate rest)
  else if high < 0xD800 ∨ 0xDBFF < high then .ok (Char.ofNat high, rest)
  else
    let rest ← expectInEscape '\\' rest
    let rest ← expectInEscape 'u' rest
    let (low, rest) ← readHexUnit rest
    if low < 0xDC00 ∨ 0xDFFF < low then .error (.before .loneSurrogate rest)
    else .ok (Char.ofNat (0x10000 + (high - 0xD800) * 0x400 + (low - 0xDC00)), rest)

/-- The character of an escape by one letter. -/
def shortEscape? (c : Char) : Option Char :=
  match c with
  | '"' => some '"'
  | '\\' => some '\\'
  | '/' => some '/'
  | 'b' => some '\x08'
  | 'f' => some '\x0c'
  | 'n' => some '\n'
  | 'r' => some '\r'
  | 't' => some '\t'
  | _ => none

/-- The character of an escape, after its backslash. -/
def readEscape : List Char → Except Failure (Char × List Char)
  | [] => .error (.at .endInString 0)
  | c :: rest =>
    match shortEscape? c with
    | some d => .ok (d, rest)
    | none => if c = 'u' then readUnicode rest else .error (.after .badEscape (c :: rest))

/-- The characters of a string after the opening quote; `acc` holds those already read, last
    first.  Each step reads at least one character, so as many steps as there are characters
    suffice. -/
def readStringBody : Nat → List Char → List Char → Except Failure (List Char × List Char)
  | _, _, [] => .error (.at .endInString 0)
  | 0, _, cs => .error (.before .endInString cs)
  | fuel + 1, acc, c :: rest =>
    if c = '"' then .ok (acc.reverse, rest)
    else if c = '\\' then do
      let (d, rest) ← readEscape rest
      readStringBody fuel (d :: acc) rest
    else if c.toNat < 0x20 then .error (.before .controlCharacter rest)
    else readStringBody fuel (c :: acc) rest

/-- The text of a string after its opening quote. -/
def readString : Reader String := fun cs => do
  let (text, rest) ← readStringBody cs.length [] cs
  return (String.ofList text, rest)

/-- The end of an escape in a string that is not wanted. -/
def skipEscape : List Char → Except Failure (List Char)
  | [] => .error (.at .endInString 0)
  | c :: rest =>
    if (shortEscape? c).isSome then .ok rest
    else if c = 'u' then (readHexUnit rest).map Prod.snd
    else .error (.after .badEscape (c :: rest))

/-- The end of a string that is not wanted. -/
def skipStringBody : Nat → List Char → Except Failure (List Char)
  | _, [] => .error (.at .endInString 0)
  | 0, cs => .error (.before .endInString cs)
  | fuel + 1, c :: rest =>
    if c = '"' then .ok rest
    else if c = '\\' then do
      let rest ← skipEscape rest
      skipStringBody fuel rest
    else if c.toNat < 0x20 then .error (.before .controlCharacter (c :: rest))
    else skipStringBody fuel rest

/-- The text after a string that is not wanted, from its opening quote on. -/
def skipString (cs : List Char) : Except Failure (List Char) := skipStringBody cs.length cs

end SovdConfig.Json
