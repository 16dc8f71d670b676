import SovdConfig.Yaml.Property
import SovdConfig.Yaml.Token

namespace SovdConfig.Yaml

/-!
# Reading tokens

Main definitions:

* `Lexer` — a text that is being read, the tokens that are ready, and the indentation so far;
* `Lexer.fetch?` — one more token is made ready;
* `Lexer.peek?`, `Lexer.next` — the next token, and going past it;
* `Lexer.tokens` — all tokens.

That something was a key shows only at the colon after it.  So every place where a key might have
started is kept, as a `PossibleKey`, and when the colon comes the token for the key is put in front
of what has been read since.  A token is ready when nothing can come before it any more.

A function gives `none` where the text is not well-formed.
-/

/-- A place where a key may have started: how many tokens came before it, and whether the
    indentation demands that it is one. -/
structure PossibleKey where
  required : Bool
  number : Nat
  mark : Mark
deriving DecidableEq, Repr

/-- A text that is being read. -/
structure Lexer where
  cursor : Cursor
  /-- Tokens that are read and not yet taken. -/
  queue : List Token := []
  /-- How many tokens have been taken. -/
  taken : Nat := 0
  /-- The indentation of the innermost block collection, and of those around it. -/
  indent : Int := -1
  outer : List Int := []
  /-- For each open flow collection, innermost first, and for the blocks around them: where a key
      may have started. -/
  keys : List (Option PossibleKey) := [none]
  /-- Whether a key may start here. -/
  keyAllowed : Bool := true
  started : Bool := false
deriving Repr, Inhabited

namespace Lexer

/-- A lexer at the start of a text. -/
def ofText (cs : List Char) : Lexer := { cursor := ⟨cs, {}⟩ }

/-- Where the lexer is. -/
def mark (l : Lexer) : Mark := l.cursor.mark

/-- Whether the lexer is in a flow collection. -/
def inFlow (l : Lexer) : Bool := 1 < l.keys.length

/-- A token at the end of the queue. -/
def push (l : Lexer) (kind : TokenKind) (start : Mark) (next : Cursor) : Lexer :=
  { l with cursor := next, queue := l.queue ++ [⟨kind, start, next.mark⟩] }

/-- A token without width here. -/
def pushHere (l : Lexer) (kind : TokenKind) : Lexer :=
  l.push kind l.mark l.cursor

/-- A token without width in front of the token of the given number. -/
def insertBefore (l : Lexer) (number : Nat) (kind : TokenKind) (mark : Mark) : Lexer :=
  let n := number - l.taken
  { l with queue := l.queue.take n ++ ⟨kind, mark, mark⟩ :: l.queue.drop n }

/-! ### Possible keys -/

/-- Whether a key can no longer have started there: keys are on one line and not too long. -/
def isStale (l : Lexer) (k : PossibleKey) : Bool :=
  k.mark.line < l.mark.line || k.mark.index + 1024 < l.mark.index

/-- A possible key, unless it is stale; a required key must not be. -/
def refresh? (l : Lexer) : Option PossibleKey → Option (Option PossibleKey)
  | none => some none
  | some k => if l.isStale k then if k.required then none else some none else some (some k)

/-- Without stale keys. -/
def dropStale? (l : Lexer) : Option Lexer :=
  (l.keys.mapM l.refresh?).map fun keys => { l with keys }

/-- Without a possible key at this level; a required key must not be given up. -/
def dropKey? (l : Lexer) : Option Lexer :=
  match l.keys with
  | some k :: rest => if k.required then none else some { l with keys := none :: rest }
  | _ => some l

/-- With a possible key here, if one is allowed. -/
def saveKey? (l : Lexer) : Option Lexer :=
  if !l.keyAllowed then some l
  else do
    let l ← l.dropKey?
    -- in a block, what starts at the indentation itself must be a key
    let key : PossibleKey :=
      ⟨!l.inFlow && l.indent == (l.mark.column : Int), l.taken + l.queue.length, l.mark⟩
    return { l with keys := some key :: l.keys.tail }

/-! ### Indentation -/

/-- A block collection starts if the column is deeper than the indentation: its token comes in front
    of the token of the given number, or else at the end. -/
def rollIndent (l : Lexer) (column : Nat) (number : Option Nat) (kind : TokenKind) (mark : Mark) :
    Lexer :=
  if !l.inFlow ∧ l.indent < column then
    let l := { l with outer := l.indent :: l.outer, indent := column }
    match number with
    | some n => l.insertBefore n kind mark
    | none => { l with queue := l.queue ++ [⟨kind, mark, mark⟩] }
  else l

/-- The block collections end that are indented more than the column. -/
def unrollFrom (column : Int) : List Int → Lexer → Lexer
  | [], l => l
  | outer :: rest, l =>
    if column < l.indent then
      unrollFrom column rest { l.pushHere .blockEnd with indent := outer, outer := rest }
    else l

/-- The block collections end that are indented more than the column. -/
def unrollIndent (l : Lexer) (column : Int) : Lexer :=
  if l.inFlow then l else unrollFrom column l.outer l

/-! ### Tokens -/

/-- Past blanks, comments and line breaks.  A mark of the encoding may start a line, and counts as a
    character of it.  A tab is no indentation: outside flow collections it is not passed where a key
    may start.  A new line outside flow collections may start a key. -/
def skipToToken : Nat → Lexer → Lexer
  | 0, l => l
  | fuel + 1, l =>
    let c := l.cursor
    let c := if c.mark.column = 0 ∧ c.startsWith '\uFEFF' then c.skip 1 else c
    let tabs := l.inFlow || !l.keyAllowed
    let c := (c.skipRun fun d => d = ' ' || (tabs && d = '\t')).skipComment
    if c.rest.head?.any isBreak then
      skipToToken fuel
        { l with cursor := c.skipBreak, keyAllowed := l.keyAllowed || !l.inFlow }
    else { l with cursor := c }

/-- The end of the text. -/
def fetchEnd? (l : Lexer) : Option Lexer := do
  let m := l.mark
  -- a last line without a line break ends here, too
  let m := if m.column = 0 then m else { m with line := m.line + 1, column := 0 }
  let l := { l with cursor := { l.cursor with mark := m } }
  let l ← (l.unrollIndent (-1)).dropKey?
  return { l with keyAllowed := false }.pushHere .streamEnd

/-- A directive. -/
def fetchDirective? (l : Lexer) : Option Lexer := do
  let l ← (l.unrollIndent (-1)).dropKey?
  let (directive, next) ← readDirective? l.cursor
  let kind := match directive with
    | .version major minor => TokenKind.version major minor
    | .tagHandle handle expansion => TokenKind.tagHandle handle expansion
  return { l with keyAllowed := false }.push kind l.mark next

/-- The start or the end of a document. -/
def fetchDocumentMark? (l : Lexer) (kind : TokenKind) : Option Lexer := do
  let l ← (l.unrollIndent (-1)).dropKey?
  return { l with keyAllowed := false }.push kind l.mark (l.cursor.skip 3)

/-- The start of a flow collection. -/
def fetchFlowStart? (l : Lexer) (kind : TokenKind) : Option Lexer := do
  let l ← l.saveKey?
  return { l with keys := none :: l.keys, keyAllowed := true }.push kind l.mark (l.cursor.skip 1)

/-- The end of a flow collection. -/
def fetchFlowEnd? (l : Lexer) (kind : TokenKind) : Option Lexer := do
  let l ← l.dropKey?
  let keys := if l.inFlow then l.keys.tail else l.keys
  return { l with keys, keyAllowed := false }.push kind l.mark (l.cursor.skip 1)

/-- A comma in a flow collection. -/
def fetchFlowEntry? (l : Lexer) : Option Lexer := do
  let l ← l.dropKey?
  return { l with keyAllowed := true }.push .flowEntry l.mark (l.cursor.skip 1)

/-- Where an indicator of a block collection stands, one may start. -/
def openBlock? (l : Lexer) (kind : TokenKind) : Option Lexer :=
  if l.inFlow then some l
  else if !l.keyAllowed then none
  else some (l.rollIndent l.mark.column none kind l.mark)

/-- The hyphen of an entry of a block sequence. -/
def fetchBlockEntry? (l : Lexer) : Option Lexer := do
  let l ← l.openBlock? .blockSequenceStart
  let l ← l.dropKey?
  return { l with keyAllowed := true }.push .blockEntry l.mark (l.cursor.skip 1)

/-- The question mark of a key. -/
def fetchKey? (l : Lexer) : Option Lexer := do
  let l ← l.openBlock? .blockMappingStart
  let l ← l.dropKey?
  return { l with keyAllowed := !l.inFlow }.push .key l.mark (l.cursor.skip 1)

/-- The colon of a value.  If a key may have started before it, that key is now known. -/
def fetchValue? (l : Lexer) : Option Lexer :=
  match l.keys with
  | some k :: rest =>
    -- the start of a mapping is put in second, so it comes before the token for its key
    let l := l.insertBefore k.number .key k.mark
    let l := l.rollIndent k.mark.column (some k.number) .blockMappingStart k.mark
    some ({ l with keys := none :: rest, keyAllowed := false }.push .value l.mark (l.cursor.skip 1))
  | _ => do
    let l ← l.openBlock? .blockMappingStart
    -- no key came before the colon, so it is an empty one
    return { l with keyAllowed := !l.inFlow }.push .value l.mark (l.cursor.skip 1)

/-- An anchor or an alias. -/
def fetchName? (l : Lexer) (kind : String → TokenKind) : Option Lexer := do
  let l ← l.saveKey?
  let (name, next) ← readName? l.cursor
  return { l with keyAllowed := false }.push (kind name) l.mark next

/-- A tag. -/
def fetchTag? (l : Lexer) : Option Lexer := do
  let l ← l.saveKey?
  let (handle, suffix, next) ← readTag? l.inFlow l.cursor
  return { l with keyAllowed := false }.push (.tag handle suffix) l.mark next

/-- A block scalar. -/
def fetchBlockScalar? (l : Lexer) (literal : Bool) : Option Lexer := do
  let l ← l.dropKey?
  let run ← readBlock? literal l.indent l.cursor
  let style := if literal then ScalarStyle.literal else ScalarStyle.folded
  -- what follows starts a line, so it may be a key
  return { l with keyAllowed := true }.push (.scalar (String.ofList run.text) style) l.mark run.next

/-- A scalar in quotes. -/
def fetchQuoted? (l : Lexer) (single : Bool) : Option Lexer := do
  let l ← l.saveKey?
  let run ← readQuoted? single l.cursor
  let style := if single then ScalarStyle.singleQuoted else ScalarStyle.doubleQuoted
  let kind := TokenKind.scalar (String.ofList run.text) style
  return { l with keyAllowed := false }.push kind l.mark run.next

/-- A scalar without quotes.  A line break after it may start a key. -/
def fetchPlain? (l : Lexer) : Option Lexer := do
  let l ← l.saveKey?
  let run ← readPlain? l.inFlow (l.indent + 1).toNat l.cursor
  return { l with keyAllowed := run.broken }.push
    (.scalar (String.ofList run.text) .plain) l.mark run.next

/-- Whether a scalar without quotes may start with this character, which is no blank. -/
def startsPlain (inFlow : Bool) (c : Char) (rest : List Char) : Bool :=
  if c = '-' then !rest.head?.any isBlank
  else if c = '?' ∨ c = ':' then !inFlow && !endsWord rest
  else !",[]\x7b\x7d#&*!|>'\"%@`".toList.contains c

/-- The token that starts with the next character. -/
def fetchToken? (l : Lexer) : Option Lexer :=
  match l.cursor.rest with
  | [] => l.fetchEnd?
  | c :: rest =>
    -- directives and the marks of documents stand at the start of a line only
    if l.mark.column = 0 ∧ c = '%' then l.fetchDirective?
    else if l.mark.column = 0 ∧ isTriple '-' (c :: rest) then l.fetchDocumentMark? .documentStart
    else if l.mark.column = 0 ∧ isTriple '.' (c :: rest) then l.fetchDocumentMark? .documentEnd
    else if c = '[' then l.fetchFlowStart? .flowSequenceStart
    else if c = '\x7b' then l.fetchFlowStart? .flowMappingStart
    else if c = ']' then l.fetchFlowEnd? .flowSequenceEnd
    else if c = '\x7d' then l.fetchFlowEnd? .flowMappingEnd
    else if c = ',' then l.fetchFlowEntry?
    else if c = '-' ∧ endsWord rest then l.fetchBlockEntry?
    else if c = '?' ∧ (l.inFlow ∨ endsWord rest) then l.fetchKey?
    else if c = ':' ∧ (l.inFlow ∨ endsWord rest) then l.fetchValue?
    else if c = '*' then l.fetchName? .reference
    else if c = '&' then l.fetchName? .anchor
    else if c = '!' then l.fetchTag?
    else if c = '|' ∧ !l.inFlow then l.fetchBlockScalar? true
    else if c = '>' ∧ !l.inFlow then l.fetchBlockScalar? false
    else if c = '\'' then l.fetchQuoted? true
    else if c = '"' then l.fetchQuoted? false
    else if !isSpace c ∧ startsPlain l.inFlow c rest then l.fetchPlain?
    else none

/-- One more token is made ready. -/
def fetch? (l : Lexer) : Option Lexer :=
  if !l.started then some ({ l with started := true }.pushHere .streamStart)
  else do
    -- each step of the skipping goes past a line break
    let l ← (skipToToken (l.cursor.rest.length + 1) l).dropStale?
    (l.unrollIndent l.mark.column).fetchToken?

/-- Whether a key may still be found to start at the first token that is ready. -/
def mayBecomeKey (l : Lexer) : Bool :=
  l.keys.any fun k => k.any fun k => k.number = l.taken

/-- Tokens are made ready until the first of them is certain. -/
def fetchMore? : Nat → Lexer → Option Lexer
  | 0, l => some l
  | fuel + 1, l =>
    if l.queue = [] then do
      let l ← l.fetch?
      fetchMore? fuel l
    else do
      let l ← l.dropStale?
      if l.mayBecomeKey then
        let l ← l.fetch?
        fetchMore? fuel l
      else return l

/-- The next token, which stays the next. -/
def peek? (l : Lexer) : Option (Token × Lexer) := do
  let l ← fetchMore? (l.cursor.rest.length + 3) l
  let t ← l.queue.head?
  return (t, l)

/-- Past the next token. -/
def next (l : Lexer) : Lexer := { l with queue := l.queue.tail, taken := l.taken + 1 }

/-- The tokens up to the end of the text, or as far as it is well-formed. -/
def tokensFrom : Nat → Lexer → List Token
  | 0, _ => []
  | fuel + 1, l =>
    match l.peek? with
    | none => []
    | some (t, l) => if t.kind = .streamEnd then [t] else t :: tokensFrom fuel l.next

/-- The tokens up to the end of the text, or as far as it is well-formed.  A character gives at most
    four: its own, one for a key, and the start and the end of a collection. -/
def tokens (l : Lexer) : List Token := tokensFrom (4 * l.cursor.rest.length + 8) l

end Lexer

end SovdConfig.Yaml
