import SovdConfig.Toml.Scalar

namespace SovdConfig.Toml

/-!
# TOML strings

Main definitions:

* `basicString?`, `literalString?` — strings on one line, after their opening quote;
* `longBasicString?`, `longLiteralString?` — strings over several lines, after their three quotes.

In the basic forms a backslash escapes; in the literal forms every character stands for itself.
Each reader returns the text of the string and what follows it.
-/

/-- Whether the character may stand in a string as it is: all but control characters other than the
    tab. -/
def isPlain (c : Char) : Bool := c = '\t' || (0x20 ≤ c.toNat && c.toNat ≠ 0x7F)

/-- A line break at the start of a text, and the rest. -/
def lineBreak? : List Char → Option (List Char × List Char)
  | '\n' :: rest => some (['\n'], rest)
  | '\r' :: '\n' :: rest => some (['\r', '\n'], rest)
  | _ => none

/-- The character of so many hexadecimal digits, and the rest. -/
def hexChar? (count : Nat) (cs : List Char) : Option (Char × List Char) := do
  let digits := cs.take count
  let values ← digits.mapM (baseDigit? 16)
  let code := values.foldl (fun n d => n * 16 + d) 0
  if values.length = count ∧ code.isValidChar then some (Char.ofNat code, cs.drop count) else none

/-- The character of an escape, after its backslash, and the rest. -/
def escape? : List Char → Option (Char × List Char)
  | [] => none
  | c :: rest =>
    match c with
    | 'b' => some ('\x08', rest)
    | 't' => some ('\t', rest)
    | 'n' => some ('\n', rest)
    | 'f' => some ('\x0c', rest)
    | 'r' => some ('\r', rest)
    | 'e' => some ('\x1b', rest)
    | '"' => some ('"', rest)
    | '\\' => some ('\\', rest)
    | 'x' => hexChar? 2 rest
    | 'u' => hexChar? 4 rest
    | 'U' => hexChar? 8 rest
    | _ => none

/-- Reading a string takes at most as many steps as there are characters. -/
def basicFrom : Nat → List Char → Option (List Char × List Char)
  | 0, _ => none
  | _, [] => none
  | fuel + 1, c :: rest =>
    if c = '"' then some ([], rest)
    else if c = '\\' then do
      let (d, rest) ← escape? rest
      let (text, rest) ← basicFrom fuel rest
      return (d :: text, rest)
    else if isPlain c then do
      let (text, rest) ← basicFrom fuel rest
      return (c :: text, rest)
    else none

/-- A string on one line with escapes. -/
def basicString? (cs : List Char) : Option (List Char × List Char) := basicFrom cs.length cs

/-- A string on one line without escapes. -/
def literalString? : List Char → Option (List Char × List Char)
  | [] => none
  | c :: rest =>
    if c = '\'' then some ([], rest)
    else if isPlain c then (literalString? rest).map fun (text, rest) => (c :: text, rest)
    else none

/-- Whether the character is a blank within a line. -/
def isBlank (c : Char) : Bool := c = ' ' || c = '\t'

/-- The text after blanks and line breaks. -/
def skipLines : List Char → List Char
  | [] => []
  | c :: rest =>
    if isBlank c ∨ c = '\n' then skipLines rest
    else if c = '\r' then
      match rest with
      | '\n' :: _ => skipLines rest
      | _ => c :: rest
    else c :: rest

/-- The text after a backslash that joins lines: the rest of its line is blank. -/
def joinLines? (cs : List Char) : Option (List Char) :=
  (lineBreak? (cs.dropWhile isBlank)).map fun (_, rest) => skipLines rest

/-- The end of a long string at three to five quotes: those beyond three belong to the text. -/
def closeLong? (quote : Char) (cs : List Char) : Option (List Char × List Char) :=
  let run := ((cs.takeWhile (· = quote)).take 5).length
  if 3 ≤ run then some (List.replicate (run - 3) quote, cs.drop run) else none

/-- Reading a long string takes at most as many steps as there are characters. -/
def longFrom (quote : Char) (escapes : Bool) : Nat → List Char → Option (List Char × List Char)
  | 0, _ => none
  | _, [] => none
  | fuel + 1, c :: rest =>
    match closeLong? quote (c :: rest) with
    | some result => some result
    | none =>
      match lineBreak? (c :: rest) with
      | some (line, rest) => (longFrom quote escapes fuel rest).map fun (t, r) => (line ++ t, r)
      | none =>
        if escapes ∧ c = '\\' then
          -- a backslash at the end of a line is no escape of a character
          match joinLines? rest with
          | some rest => longFrom quote escapes fuel rest
          | none => do
            let (d, rest) ← escape? rest
            let (text, rest) ← longFrom quote escapes fuel rest
            return (d :: text, rest)
        else if isPlain c then (longFrom quote escapes fuel rest).map fun (t, r) => (c :: t, r)
        else none

/-- A long string; a line break right after the opening quotes is no part of it. -/
def longString? (quote : Char) (escapes : Bool) (cs : List Char) :
    Option (List Char × List Char) :=
  match lineBreak? cs with
  | some (_, rest) => longFrom quote escapes rest.length rest
  | none => longFrom quote escapes cs.length cs

/-- A string of several lines with escapes. -/
def longBasicString? : List Char → Option (List Char × List Char) := longString? '"' true

/-- A string of several lines without escapes. -/
def longLiteralString? : List Char → Option (List Char × List Char) := longString? '\'' false

/-- A string of any form, from its opening quote on. -/
def string? : List Char → Option (List Char × List Char)
  | '"' :: '"' :: '"' :: rest => longBasicString? rest
  | '"' :: rest => basicString? rest
  | '\'' :: '\'' :: '\'' :: rest => longLiteralString? rest
  | '\'' :: rest => literalString? rest
  | _ => none

end SovdConfig.Toml
