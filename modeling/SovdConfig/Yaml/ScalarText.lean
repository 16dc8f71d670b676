import SovdConfig.Yaml.Cursor

namespace SovdConfig.Yaml

/-!
# Scalars in YAML texts

The three ways in which a scalar is written.  Main definitions:

* `Gap` — the blanks and line breaks between two words, and what they stand for;
* `readPlain?` — a scalar without quotes;
* `readQuoted?` — a scalar in single or double quotes;
* `readBlock?` — a scalar that is indented below its indicator.

Between words, a single line break folds into a blank and further ones are kept.
-/

/-- Blanks and line breaks between two words: the blanks before the first line break, that break,
    the others, and whether there was one. -/
structure Gap where
  blanks : List Char := []
  lead : List Char := []
  trail : List Char := []
  broken : Bool := false
deriving Repr, Inhabited

/-- What stands for a gap in the text of a scalar. -/
def Gap.text (g : Gap) : List Char :=
  if g.broken then
    if g.lead.head? = some '\n' then if g.trail = [] then [' '] else g.trail
    else g.lead ++ g.trail
  else g.blanks

/-- Reads a gap.  A tab before the given column of a new line is refused. -/
def readGap (column : Nat) : Nat → Gap → Cursor → Option (Gap × Cursor)
  | 0, g, c => some (g, c)
  | fuel + 1, g, c =>
    match c.rest with
    | [] => some (g, c)
    | d :: _ =>
      if isBlank d then
        if g.broken then
          -- blanks after a line break are indentation, and stand for nothing
          if d = '\t' ∧ c.mark.column < column then none else readGap column fuel g (c.skip 1)
        else readGap column fuel { g with blanks := g.blanks ++ [d] } (c.skip 1)
      else if isBreak d then
        if g.broken then
          readGap column fuel { g with trail := g.trail ++ c.breakText } c.skipBreak
        else
          readGap column fuel { lead := c.breakText, trail := g.trail, broken := true } c.skipBreak
      else some (g, c)

/-! ### Plain scalars -/

/-- Whether the character is an indicator of a flow collection. -/
def isFlowIndicator (c : Char) : Bool :=
  c = ',' || c = '[' || c = ']' || c = '\x7b' || c = '\x7d'

/-- The characters of a word of a plain scalar.  In a flow collection, a colon before an indicator
    is refused. -/
def plainRun (inFlow : Bool) : List Char → Option (List Char)
  | [] => some []
  | c :: rest =>
    if isSpace c then some []
    else if inFlow ∧ c = ':' ∧ rest.head?.any (fun d => isFlowIndicator d || d = '?') then none
    else if c = ':' ∧ endsWord rest then some []
    else if inFlow ∧ isFlowIndicator c then some []
    else (plainRun inFlow rest).map (c :: ·)

/-- A scalar that has been read: its text, what follows it, and whether a line break came after its
    last word. -/
structure ScalarRun where
  text : List Char
  next : Cursor
  broken : Bool

/-- The words of a plain scalar, given the text so far and the gap after it. -/
def plainFrom (inFlow : Bool) (indent : Nat) :
    Nat → List Char → Gap → Cursor → Option ScalarRun
  | 0, text, g, c => some ⟨text, c, g.broken⟩
  | fuel + 1, text, g, c =>
    if c.atDocumentMark ∨ c.startsWith '#' then some ⟨text, c, g.broken⟩
    else do
      let word ← plainRun inFlow c.rest
      let next := c.skip word.length
      let (text, g) := if word = [] then (text, g) else (text ++ g.text ++ word, {})
      -- the scalar goes on only behind blanks or line breaks
      if !next.rest.head?.any isSpace then return ⟨text, next, g.broken⟩
      else
        let (g, next) ← readGap indent next.rest.length g next
        -- a line further out belongs to a collection around the scalar
        if !inFlow ∧ next.mark.column < indent then return ⟨text, next, g.broken⟩
        else plainFrom inFlow indent fuel text g next

/-- A scalar without quotes; outside flow collections, its lines are indented at least so far. -/
def readPlain? (inFlow : Bool) (indent : Nat) (c : Cursor) : Option ScalarRun :=
  plainFrom inFlow indent (c.rest.length + 1) [] {} c

/-! ### Quoted scalars -/

/-- The character of an escape by one letter. -/
def shortEscape? (c : Char) : Option Char :=
  match c with
  | '0' => some '\x00'
  | 'a' => some '\x07'
  | 'b' => some '\x08'
  | 't' => some '\t'
  | '\t' => some '\t'
  | 'n' => some '\n'
  | 'v' => some '\x0b'
  | 'f' => some '\x0c'
  | 'r' => some '\r'
  | 'e' => some '\x1b'
  | ' ' => some ' '
  | '"' => some '"'
  | '/' => some '/'
  | '\\' => some '\\'
  | 'N' => some '\u0085'
  | '_' => some '\u00A0'
  | 'L' => some '\u2028'
  | 'P' => some '\u2029'
  | _ => none

/-- How many hexadecimal digits follow the letter of an escape. -/
def escapeDigits? (c : Char) : Option Nat :=
  match c with
  | 'x' => some 2
  | 'u' => some 4
  | 'U' => some 8
  | _ => none

/-- The value of a hexadecimal digit. -/
def hexValue? (c : Char) : Option Nat :=
  if c.isDigit then some (c.toNat - 0x30)
  else if 'a' ≤ c ∧ c ≤ 'f' then some (c.toNat - 0x57)
  else if 'A' ≤ c ∧ c ≤ 'F' then some (c.toNat - 0x37)
  else none

/-- The character of an escape after its backslash, and how many characters the escape has there. -/
def escape? : List Char → Option (Char × Nat)
  | [] => none
  | c :: rest =>
    match shortEscape? c with
    | some d => some (d, 1)
    | none => do
      let count ← escapeDigits? c
      let digits ← (rest.take count).mapM hexValue?
      let code := digits.foldl (fun n d => n * 16 + d) 0
      if digits.length = count ∧ code.isValidChar then some (Char.ofNat code, count + 1) else none

/-- The characters up to the end of a word in quotes, and whether an escaped line break ended it. -/
def quotedRun (single : Bool) : Nat → Cursor → Option (List Char × Bool × Cursor)
  | 0, c => some ([], false, c)
  | fuel + 1, c =>
    match c.rest with
    | [] => some ([], false, c)
    | d :: rest =>
      if isSpace d then some ([], false, c)
      else if single ∧ d = '\'' then
        -- two quotes in a row stand for one
        if rest.head? = some '\'' then
          (quotedRun single fuel (c.skip 2)).map fun (t, b, c) => ('\'' :: t, b, c)
        else some ([], false, c)
      else if !single ∧ d = '"' then some ([], false, c)
      else if !single ∧ d = '\\' then
        -- an escaped line break joins the lines, and is no part of the text
        if rest.head?.any isBreak then some ([], true, (c.skip 1).skipBreak)
        else do
          let (e, count) ← escape? rest
          let (t, b, c) ← quotedRun single fuel (c.skip (count + 1))
          return (e :: t, b, c)
      else (quotedRun single fuel (c.skip 1)).map fun (t, b, c) => (d :: t, b, c)

/-- The words of a quoted scalar, given the text so far. -/
def quotedFrom (single : Bool) : Nat → List Char → Cursor → Option ScalarRun
  | 0, _, _ => none
  | fuel + 1, text, c =>
    if c.atDocumentMark ∨ c.rest = [] then none
    else do
      let (word, joined, c) ← quotedRun single c.rest.length c
      let text := text ++ word
      if c.startsWith (if single then '\'' else '"') then
        return ⟨text, c.skip 1, false⟩
      else
        let (g, c) ← readGap 0 c.rest.length { broken := joined } c
        quotedFrom single fuel (text ++ g.text) c

/-- A scalar in quotes, from its opening quote on. -/
def readQuoted? (single : Bool) (c : Cursor) : Option ScalarRun :=
  quotedFrom single (c.rest.length + 1) [] (c.skip 1)

/-! ### Block scalars -/

/-- What happens to the line breaks at the end of a block scalar. -/
inductive Chomping
  | strip
  | clip
  | keep
deriving DecidableEq, Repr

/-- The chomping that an indicator asks for. -/
def chomping? (c : Char) : Option Chomping :=
  if c = '+' then some .keep else if c = '-' then some .strip else none

/-- The indentation that a digit asks for. -/
def increment? (c : Char) : Option Nat := if c.isDigit then some (c.toNat - 0x30) else none

/-- The indicators after the first one, in either order: chomping and indentation, which must not
    be zero. -/
def blockHeader? (c : Cursor) : Option (Chomping × Nat × Cursor) :=
  let nonZero (chomping : Chomping) (n : Nat) (c : Cursor) : Option (Chomping × Nat × Cursor) :=
    if n = 0 then none else some (chomping, n, c)
  match c.rest with
  | [] => some (.clip, 0, c)
  | d :: rest =>
    match chomping? d, increment? d with
    | some chomping, _ =>
      match rest.head?.bind increment? with
      | some n => nonZero chomping n (c.skip 2)
      | none => some (chomping, 0, c.skip 1)
    | none, some n =>
      match rest.head?.bind chomping? with
      | some chomping => nonZero chomping n (c.skip 2)
      | none => nonZero .clip n (c.skip 1)
    | none, none => some (.clip, 0, c)

/-- Indentation and empty lines before a line of a block scalar: the line breaks, and the greatest
    column that was reached.  An indentation of zero means that it is not known yet. -/
def blockBreaks (indent : Nat) :
    Nat → List Char → Nat → Cursor → Option (List Char × Nat × Cursor)
  | 0, breaks, deepest, c => some (breaks, deepest, c)
  | fuel + 1, breaks, deepest, c =>
    let blanks := (c.rest.takeWhile (· = ' ')).length
    -- blanks beyond an indentation that is known are part of the line
    let c := c.skip (if indent = 0 then blanks else min blanks (indent - c.mark.column))
    let deepest := max deepest c.mark.column
    if (indent = 0 ∨ c.mark.column < indent) ∧ c.startsWith '\t' then none
    else if c.rest.head?.any isBreak then
      blockBreaks indent fuel (breaks ++ c.breakText) deepest c.skipBreak
    else some (breaks, deepest, c)

/-- The lines of a block scalar: the text so far, the break after its last line, the breaks of the
    empty lines after that, and whether that line started with a blank. -/
def blockLines (literal : Bool) (indent : Nat) :
    Nat → List Char → List Char → List Char → Bool → Cursor →
      Option (List Char × List Char × List Char × Cursor)
  | 0, text, lead, trail, _, c => some (text, lead, trail, c)
  | fuel + 1, text, lead, trail, wasBlank, c =>
    if c.mark.column ≠ indent ∨ c.rest = [] then some (text, lead, trail, c)
    else do
      let blank := c.rest.head?.any isBlank
      -- lines that start with a blank are not folded into those around them
      let joint :=
        if !literal ∧ lead.head? = some '\n' ∧ !wasBlank ∧ !blank then
          if trail = [] then [' '] else []
        else lead
      let line := c.rest.takeWhile fun d => !isBreak d
      let ended := c.skip line.length
      let next := ended.skipBreak
      let (breaks, _, next) ← blockBreaks indent (next.rest.length + 1) [] 0 next
      blockLines literal indent fuel (text ++ joint ++ trail ++ line) ended.breakText breaks blank
        next

/-- A block scalar, from its indicator on; `parent` is the indentation around it. -/
def readBlock? (literal : Bool) (parent : Int) (c : Cursor) : Option ScalarRun := do
  let (chomping, increment, c) ← blockHeader? (c.skip 1)
  let c ← c.finishLine?
  let given := if increment = 0 then 0 else (max parent 0).toNat + increment
  let (breaks, deepest, c) ← blockBreaks given (c.rest.length + 1) [] 0 c
  -- an indentation that is not given is the deepest one up to the first line with text
  let indent := if given = 0 then max deepest (max (parent + 1).toNat 1) else given
  let (text, lead, trail, c) ← blockLines literal indent (c.rest.length + 1) [] [] breaks false c
  let tail := match chomping with
    | .strip => []
    | .clip => lead
    | .keep => lead ++ trail
  return ⟨text ++ tail, c, true⟩

end SovdConfig.Yaml
