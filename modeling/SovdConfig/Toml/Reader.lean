import SovdConfig.Toml.Quoted
import SovdConfig.Toml.Table

namespace SovdConfig.Toml

/-!
# Reading TOML

Main definitions:

* `key?`, `value?` — keys with dots, and values;
* `Statement`, `statement?` — what one line of a document says;
* `Statement.extend?` — what it does to the tables read so far;
* `read?` — the table that a document denotes.

Arrays and inline tables may extend over several lines, hold comments and end with a comma.
-/

/-- How deep arrays and inline tables may be nested. -/
def nestingLimit : Nat := 80

/-- Whether the character may stand in a key without quotes. -/
def isBareKeyChar (c : Char) : Bool := c.isAlphanum || c = '_' || c = '-'

/-- The text after blanks. -/
def skipBlanks (cs : List Char) : List Char := cs.dropWhile isBlank

/-- The text after a comment, if one comes next. -/
def skipComment : List Char → List Char
  | '#' :: rest => rest.dropWhile isPlain
  | cs => cs

/-- One part of a key. -/
def keyPart? (cs : List Char) : Option (String × List Char) :=
  match cs with
  | '"' :: rest => (basicString? rest).map fun (text, rest) => (String.ofList text, rest)
  | '\'' :: rest => (literalString? rest).map fun (text, rest) => (String.ofList text, rest)
  | _ =>
    let name := cs.takeWhile isBareKeyChar
    if name = [] then none else some (String.ofList name, cs.dropWhile isBareKeyChar)

/-- The parts of a key, and the text after the blanks behind it. -/
def keyFrom : Nat → List Char → Option (List String × List Char)
  | 0, _ => none
  | fuel + 1, cs => do
    let (part, rest) ← keyPart? cs
    match skipBlanks rest with
    | '.' :: rest =>
      let (parts, rest) ← keyFrom fuel (skipBlanks rest)
      return (part :: parts, rest)
    | rest => return ([part], rest)

/-- A key: parts with dots between them. -/
def key? (cs : List Char) : Option (List String × List Char) := keyFrom (cs.length + 1) cs

/-- The text after blanks, line breaks and comments. -/
def skipGaps : Nat → List Char → List Char
  | 0, cs => cs
  | fuel + 1, cs =>
    match skipLines cs with
    | '#' :: rest =>
      match lineBreak? (rest.dropWhile isPlain) with
      | some (_, rest) => skipGaps fuel rest
      -- no line break ends the comment, so it is left to be refused
      | none => '#' :: rest
    | rest => rest

/-- The text after blanks, line breaks and comments. -/
def skipGap (cs : List Char) : List Char := skipGaps (cs.length + 1) cs

/-- Whether the character may stand in a value without quotes. -/
def isWordChar (c : Char) : Bool :=
  c.isAlphanum || c = '+' || c = '-' || c = '_' || c = '.' || c = ':'

/-- A value without quotes.  A blank may stand between a date and a time. -/
def word? (cs : List Char) : Option (Toml × List Char) :=
  let word := cs.takeWhile isWordChar
  match cs.dropWhile isWordChar with
  | ' ' :: d :: rest =>
    if (date? word).isSome ∧ word.length = 10 ∧ d.isDigit then
      let time := (d :: rest).takeWhile isWordChar
      (scalar? (word ++ ' ' :: time)).map fun v => (v, (d :: rest).dropWhile isWordChar)
    else (scalar? word).map fun v => (v, ' ' :: d :: rest)
  | rest => (scalar? word).map fun v => (v, rest)

/-- The items of an array up to its closing bracket. -/
def itemsFrom (value : List Char → Option (Toml × List Char)) :
    Nat → List Char → Option (List Toml × List Char)
  | 0, _ => none
  | fuel + 1, cs =>
    match skipGap cs with
    | ']' :: rest => some ([], rest)
    | cs => do
      let (v, rest) ← value cs
      match skipGap rest with
      | ']' :: rest => return ([v], rest)
      | ',' :: rest =>
        let (vs, rest) ← itemsFrom value fuel rest
        return (v :: vs, rest)
      | _ => none

/-- A key, an equals sign and a value. -/
def assignment? (value : List Char → Option (Toml × List Char)) (cs : List Char) :
    Option ((List String × Toml) × List Char) := do
  let (keys, rest) ← key? cs
  match rest with
  | '=' :: rest =>
    let (v, rest) ← value (skipBlanks rest)
    return ((keys, v), rest)
  | _ => none

/-- The assignments of an inline table up to its closing brace. -/
def membersFrom (value : List Char → Option (Toml × List Char)) :
    Nat → Items → List Char → Option (Items × List Char)
  | 0, _, _ => none
  | fuel + 1, items, cs =>
    match skipGap cs with
    | '\x7d' :: rest => some (items, rest)
    | cs => do
      let ((keys, v), rest) ← assignment? value cs
      let items ← assign? true items keys v
      match skipGap rest with
      | '\x7d' :: rest => return (items, rest)
      | ',' :: rest => membersFrom value fuel items rest
      | _ => none

/-- A value, with the levels of nesting that are left. -/
def valueFrom : Nat → List Char → Option (Toml × List Char)
  | _, [] => none
  | depth, c :: rest =>
    if c = '"' ∨ c = '\'' then
      (string? (c :: rest)).map fun (text, rest) => (.string (String.ofList text), rest)
    else if c = '[' then
      match depth with
      | 0 => none
      | depth + 1 =>
        (itemsFrom (valueFrom depth) (rest.length + 1) rest).map fun (vs, rest) => (.array vs, rest)
    else if c = '\x7b' then
      match depth with
      | 0 => none
      | depth + 1 =>
        (membersFrom (valueFrom depth) (rest.length + 1) [] rest).map fun (items, rest) =>
          (.table (membersToToml items), rest)
    else word? (c :: rest)

/-- A value. -/
def value? (cs : List Char) : Option (Toml × List Char) := valueFrom nestingLimit cs

/-- What one line of a document says. -/
inductive Statement
  | assign (keys : List String) (value : Toml)
  | header (element : Bool) (keys : List String)

/-- A header after its opening brackets. -/
def header? (element : Bool) (cs : List Char) : Option (Statement × List Char) := do
  let (keys, rest) ← key? (skipBlanks cs)
  match element, rest with
  | true, ']' :: ']' :: rest => return (.header true keys, rest)
  | false, ']' :: rest => return (.header false keys, rest)
  | _, _ => none

/-- One statement. -/
def statement? (cs : List Char) : Option (Statement × List Char) :=
  match cs with
  | '[' :: '[' :: rest => header? true rest
  | '[' :: rest => header? false rest
  | _ => (assignment? value? cs).map fun ((keys, v), rest) => (.assign keys v, rest)

/-- A document that is being read: the header that was opened last, and the tables so far. -/
structure Draft where
  header : List String
  items : Items

/-- What a statement does to the tables. -/
def Statement.extend? (draft : Draft) : Statement → Option Draft
  | .assign keys v =>
    (assignUnder? draft.items draft.header keys v).map fun items => { draft with items }
  | .header element keys => (open? element draft.items keys).map fun items => ⟨keys, items⟩

/-- The statement of a line, if there is one before the comment or the end of the line. -/
def line? (draft : Draft) (cs : List Char) : Option (Draft × List Char) :=
  match cs with
  | [] => some (draft, [])
  | c :: rest =>
    if c = '#' ∨ (lineBreak? (c :: rest)).isSome then some (draft, c :: rest)
    else do
      let (statement, rest) ← statement? (c :: rest)
      let draft ← statement.extend? draft
      return (draft, rest)

/-- The lines of a document.  Each step reads at least one character. -/
def linesFrom : Nat → Draft → List Char → Option Draft
  | 0, _, _ => none
  | fuel + 1, draft, cs => do
    let (draft, rest) ← line? draft (skipBlanks cs)
    match skipComment (skipBlanks rest) with
    | [] => return draft
    | rest =>
      let (_, rest) ← lineBreak? rest
      linesFrom fuel draft rest

/-- A text without the mark that may stand at the start of an encoded file. -/
def dropByteOrderMark : List Char → List Char
  | '\uFEFF' :: rest => rest
  | cs => cs

/-- The members of the table that a document denotes. -/
def read? (text : String) : Option (List (String × Toml)) :=
  let cs := dropByteOrderMark text.toList
  (linesFrom (cs.length + 1) ⟨[], []⟩ cs).map fun draft => membersToToml draft.items

end SovdConfig.Toml
