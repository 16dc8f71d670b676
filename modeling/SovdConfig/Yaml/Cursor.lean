namespace SovdConfig.Yaml

/-!
# Places in YAML texts

Main definitions:

* `Mark` — a place, in characters and in lines;
* `Cursor` — a place and the text from there on;
* `Cursor.skip`, `Cursor.skipBreak`, `Cursor.skipRun` — moving on.

The predicates on what comes next follow the grammar: blanks, line breaks, and the end of the text.
-/

/-- A place: how many characters, lines, and characters of the line come before it. -/
structure Mark where
  index : Nat := 0
  line : Nat := 0
  column : Nat := 0
deriving DecidableEq, Repr, Inhabited

/-- Whether the character is a blank within a line. -/
def isBlank (c : Char) : Bool := c = ' ' || c = '\t'

/-- Whether the character breaks a line. -/
def isBreak (c : Char) : Bool :=
  c = '\r' || c = '\n' || c = '\u0085' || c = '\u2028' || c = '\u2029'

/-- Whether the character is a blank or breaks a line. -/
def isSpace (c : Char) : Bool := isBlank c || isBreak c

/-- Whether the character may stand in the name of an anchor, a directive or a tag handle. -/
def isNameChar (c : Char) : Bool := c.isAlphanum || c = '_' || c = '-'

/-- Whether a line, or the text, ends here. -/
def endsLine : List Char → Bool
  | [] => true
  | c :: _ => isBreak c

/-- Whether a word ends here. -/
def endsWord : List Char → Bool
  | [] => true
  | c :: _ => isSpace c

/-- Whether a line of the text starts with three of the given characters and then a word ends. -/
def isTriple (c : Char) : List Char → Bool
  | a :: b :: d :: rest => a = c && b = c && d = c && endsWord rest
  | _ => false

/-- Whether a document starts or ends here, if this is the start of a line. -/
def isDocumentMark (cs : List Char) : Bool := isTriple '-' cs || isTriple '.' cs

/-- A place, and the text from there on. -/
structure Cursor where
  rest : List Char
  mark : Mark
deriving Repr, Inhabited

namespace Cursor

/-- Past so many characters of one line. -/
def skip (c : Cursor) (n : Nat) : Cursor :=
  { rest := c.rest.drop n
    mark := { c.mark with index := c.mark.index + n, column := c.mark.column + n } }

/-- Past one line break, which may be of two characters. -/
def skipBreak (c : Cursor) : Cursor :=
  match c.rest with
  | '\r' :: '\n' :: rest => ⟨rest, ⟨c.mark.index + 2, c.mark.line + 1, 0⟩⟩
  | d :: rest => if isBreak d then ⟨rest, ⟨c.mark.index + 1, c.mark.line + 1, 0⟩⟩ else c
  | [] => c

/-- What a line break adds to a text: a line feed, or the separator itself. -/
def breakText (c : Cursor) : List Char :=
  match c.rest with
  | [] => []
  | d :: _ =>
    if d = '\u2028' ∨ d = '\u2029' then [d] else if isBreak d then ['\n'] else []

/-- Past the characters of one line that satisfy the test. -/
def skipRun (c : Cursor) (test : Char → Bool) : Cursor := c.skip (c.rest.takeWhile test).length

/-- Whether the next character is the given one. -/
def startsWith (c : Cursor) (d : Char) : Bool := c.rest.head? == some d

/-- Whether this is the start of a line that starts or ends a document. -/
def atDocumentMark (c : Cursor) : Bool := c.mark.column = 0 && isDocumentMark c.rest

/-- Past the comment that comes next, if one does. -/
def skipComment (c : Cursor) : Cursor :=
  if c.startsWith '#' then c.skipRun fun d => !isBreak d else c

/-- Past blanks and a comment to the next line, if nothing else comes before it. -/
def finishLine? (c : Cursor) : Option Cursor :=
  let c := (c.skipRun isBlank).skipComment
  if endsLine c.rest then some c.skipBreak else none

end Cursor

end SovdConfig.Yaml
