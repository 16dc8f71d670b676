import SovdConfig.Members
import SovdConfig.Yaml.Node
import SovdConfig.Yaml.Token.Lexer

namespace SovdConfig.Yaml

/-!
# Reading nodes

Main definitions:

* `Composer` — the tokens that are left, and the names that stand for something;
* `Composer.node` — the node that comes next;
* `Document.ofText` — the first document of a text, and whether there is nothing else in it.

A function that reads something gives what it could read, and the composer after it unless the text
breaks off.  What breaks off ends with a broken node.
-/

/-- Tokens that are left, the texts that tag handles stand for, and the number of each anchor. -/
structure Composer where
  tokens : List Token
  handles : List (String × String)
  anchors : List (String × Nat) := []

/-- Something that was read, and the composer after it unless the text breaks off. -/
abbrev Composed (α : Type) := α × Option Composer

namespace Composer

/-- The handles that need no declaration. -/
def standardHandles : List (String × String) := [("!", "!"), ("!!", "tag:yaml.org,2002:")]

/-- With other tokens. -/
def withTokens (s : Composer) (tokens : List Token) : Composer := { s with tokens }

/-- The first of several things and those after it. -/
def consed {α : Type} (first : Composed α) (more : Composer → Composed (List α)) :
    Composed (List α) :=
  match first with
  | (a, none) => ([a], none)
  | (a, some s) =>
    let (rest, next) := more s
    (a :: rest, next)

/-- A key and its value. -/
def member (key : Composed Node) (value : Composer → Composed Node) : Composed (Node × Node) :=
  match key with
  | (k, none) => ((k, .broken), none)
  | (k, some s) =>
    let (v, next) := value s
    ((k, v), next)

/-! ### Parts of collections -/

variable (node : Composer → Composed Node)

/-- A node, unless one of the given tokens comes next.  Then it is an empty scalar, at the given
    mark or else at that token. -/
def nodeUnless (stops : List TokenKind) (mark : Option Mark) (s : Composer) : Composed Node :=
  match s.tokens with
  | [] => (.broken, none)
  | t :: _ => if stops.contains t.kind then (.emptyAt (mark.getD t.start), some s) else node s

/-- The value after a key, which is empty if there is no colon.  In a block an empty value is at the
    colon. -/
def memberValue (inBlock : Bool) (stops : List TokenKind) (s : Composer) : Composed Node :=
  match s.tokens with
  | [] => (.broken, none)
  | t :: rest =>
    if t.kind = .value then
      nodeUnless node stops (if inBlock then some t.stop else none) (s.withTokens rest)
    else (.emptyAt t.start, some s)

/-- The items of a block sequence with an indentation of its own. -/
def blockItems : Nat → Composer → Composed (List Node)
  | 0, _ => ([.broken], none)
  | fuel + 1, s =>
    match s.tokens with
    | [] => ([.broken], none)
    | t :: rest =>
      if t.kind = .blockEntry then
        consed (nodeUnless node [.blockEntry, .blockEnd] (some t.stop) (s.withTokens rest))
          (blockItems fuel)
      else if t.kind = .blockEnd then ([], some (s.withTokens rest))
      else ([.broken], none)

/-- The items of a block sequence that is indented as the mapping around it. -/
def indentlessItems : Nat → Composer → Composed (List Node)
  | 0, _ => ([.broken], none)
  | fuel + 1, s =>
    match s.tokens with
    | [] => ([.broken], none)
    | t :: rest =>
      if t.kind = .blockEntry then
        consed
          (nodeUnless node [.blockEntry, .key, .value, .blockEnd] (some t.stop) (s.withTokens rest))
          (indentlessItems fuel)
      else ([], some s)

/-- The members of a block mapping. -/
def blockMembers : Nat → Composer → Composed (List (Node × Node))
  | 0, _ => ([(.broken, .broken)], none)
  | fuel + 1, s =>
    match s.tokens with
    | [] => ([(.broken, .broken)], none)
    | t :: rest =>
      let stops := [.key, .value, .blockEnd]
      if t.kind = .key then
        consed
          (member (nodeUnless node stops (some t.stop) (s.withTokens rest))
            (memberValue node true stops))
          (blockMembers fuel)
      else if t.kind = .blockEnd then ([], some (s.withTokens rest))
      else ([(.broken, .broken)], none)

/-- A member that is an item of a flow sequence, after the token for its key.  What stands in the
    place of the key and is none is passed over. -/
def pairItem (mark : Mark) (s : Composer) : Composed Node :=
  let stops := [.value, .flowEntry, .flowSequenceEnd]
  let key : Composed Node :=
    match s.tokens with
    | [] => (.broken, none)
    | t :: rest =>
      if stops.contains t.kind then (.emptyAt t.stop, some (s.withTokens rest)) else node s
  let (pair, next) := member key (memberValue node false [.flowEntry, .flowSequenceEnd])
  match next with
  | some s =>
    if s.tokens = [] then (.mapping { mark } [pair, (.broken, .broken)], none)
    else (.mapping { mark } [pair], some s)
  | none => (.mapping { mark } [pair], none)

/-- The items of a flow sequence.  A comma stands between two of them, and may follow the last. -/
def flowItems : Nat → Bool → Composer → Composed (List Node)
  | 0, _, _ => ([.broken], none)
  | fuel + 1, afterComma, s =>
    match s.tokens with
    | [] => ([.broken], none)
    | t :: rest =>
      if t.kind = .flowSequenceEnd then ([], some (s.withTokens rest))
      else if !afterComma then
        if t.kind = .flowEntry then flowItems fuel true (s.withTokens rest) else ([.broken], none)
      else if t.kind = .key then
        consed (pairItem node t.start (s.withTokens rest)) (flowItems fuel false)
      else consed (node s) (flowItems fuel false)

/-- The members of a flow mapping.  A comma stands between two of them, and may follow the last. -/
def flowMembers : Nat → Bool → Composer → Composed (List (Node × Node))
  | 0, _, _ => ([(.broken, .broken)], none)
  | fuel + 1, afterComma, s =>
    match s.tokens with
    | [] => ([(.broken, .broken)], none)
    | t :: rest =>
      if t.kind = .flowMappingEnd then ([], some (s.withTokens rest))
      else if !afterComma then
        if t.kind = .flowEntry then flowMembers fuel true (s.withTokens rest)
        else ([(.broken, .broken)], none)
      else if t.kind = .key then
        consed
          (member (nodeUnless node [.value, .flowEntry, .flowMappingEnd] none (s.withTokens rest))
            (memberValue node false [.flowEntry, .flowMappingEnd]))
          (flowMembers fuel false)
      else
        -- a part without the token for a key has no value
        let absent (s : Composer) : Composed Node :=
          match s.tokens with
          | [] => (.broken, none)
          | t :: _ => (.emptyAt t.start, some s)
        consed (member (node s) absent) (flowMembers fuel false)

/-! ### Nodes -/

/-- The tag that a handle and a suffix make, if the handle is known. -/
def expandTag? (s : Composer) (handle suffix : String) : Option String :=
  if handle = "" then some suffix else (s.handles.lookup handle).map (· ++ suffix)

/-- The anchor and the tag of a node, in either order and both optional. -/
def properties? (s : Composer) : Option ((Option String × Option String) × Composer) :=
  match s.tokens with
  | ⟨.anchor name, _, _⟩ :: ⟨.tag handle suffix, _, _⟩ :: rest
  | ⟨.tag handle suffix, _, _⟩ :: ⟨.anchor name, _, _⟩ :: rest =>
    (s.expandTag? handle suffix).map fun tag => ((some name, some tag), s.withTokens rest)
  | ⟨.anchor name, _, _⟩ :: rest => some ((some name, none), s.withTokens rest)
  | ⟨.tag handle suffix, _, _⟩ :: rest =>
    (s.expandTag? handle suffix).map fun tag => ((none, some tag), s.withTokens rest)
  | _ => some ((none, none), s)

/-- With an anchor, whose number is how many names of anchors there were. -/
def addAnchor (s : Composer) (name : String) : Nat × Composer :=
  let number := s.anchors.length
  (number, { s with anchors := setMember s.anchors name number })

/-- What is known of a node that is about to start.  Its anchor is known to its own parts. -/
def label (s : Composer) (mark : Mark) (name tag : Option String) : Label × Composer :=
  match name with
  | some name =>
    let (number, s) := s.addAnchor name
    ({ mark, anchor := some number, tag }, s)
  | none => ({ mark, tag }, s)

end Composer

/-- Where a node stands.  Block collections start in blocks only, and a block sequence needs no
    indentation of its own if it belongs to a member of a block mapping. -/
inductive NodePlace
  | inFlow
  | inBlock
  | inMember
deriving DecidableEq

namespace Composer

/-- A node without its properties.  Its parts are read by the given function. -/
def contents (node : NodePlace → Composer → Composed Node) (place : NodePlace) (label : Label)
    (s : Composer) : Composed Node :=
  match s.tokens with
  | [] => (.broken, none)
  | t :: rest =>
    let inner := s.withTokens rest
    let fuel := s.tokens.length + 1
    let sequence (items : Composed (List Node)) : Composed Node := items.map (.sequence label) id
    let mapping (members : Composed (List (Node × Node))) : Composed Node :=
      members.map (.mapping label) id
    match t.kind with
    | .scalar text style =>
      -- the exclamation mark by itself is no tag of a scalar
      let tag := if label.tag = some "!" then none else label.tag
      (.scalar { label with tag } text style, some inner)
    | .flowSequenceStart => sequence (flowItems (node .inFlow) fuel true inner)
    | .flowMappingStart => mapping (flowMembers (node .inFlow) fuel true inner)
    | kind =>
      -- the hyphen belongs to the first item, so it is left to be read
      if place = .inMember ∧ kind = .blockEntry then
        sequence (indentlessItems (node .inBlock) fuel s)
      else if place ≠ .inFlow ∧ kind = .blockSequenceStart then
        sequence (blockItems (node .inBlock) fuel inner)
      else if place ≠ .inFlow ∧ kind = .blockMappingStart then
        mapping (blockMembers (node .inMember) fuel inner)
      -- an anchor or a tag by itself is that of an empty scalar
      else if label.anchor.isSome ∨ label.tag.isSome then (.scalar label "" .plain, some s)
      else (.broken, none)

/-- The node that comes next, with the levels of nesting that are left. -/
def nodeFrom : Nat → NodePlace → Composer → Composed Node
  | 0, _, _ => (.broken, none)
  | fuel + 1, place, s =>
    match s.tokens with
    | [] => (.broken, none)
    -- an alias has no anchor and no tag of its own
    | ⟨.reference name, mark, _⟩ :: rest =>
      match s.anchors.lookup name with
      | some number => (.reference mark number, some (s.withTokens rest))
      | none => (.broken, none)
    | t :: _ =>
      match s.properties? with
      | none => (.broken, none)
      | some ((name, tag), s) =>
        let (label, s) := s.label t.start name tag
        contents (nodeFrom fuel) place label s

/-- The node that comes next.  Each level of nesting takes at least one token. -/
def node (place : NodePlace) (s : Composer) : Composed Node :=
  nodeFrom (s.tokens.length + 1) place s

/-! ### Documents -/

/-- With what the directives in front of a document say.  A version may be given once, and a handle
    may be declared once. -/
def directives? : Bool → List (String × String) → List Token → Option Composer
  | versioned, handles, ⟨.version major minor, _, _⟩ :: rest =>
    if versioned ∨ major ≠ 1 ∨ (minor ≠ 1 ∧ minor ≠ 2) then none else directives? true handles rest
  | versioned, handles, ⟨.tagHandle handle expansion, _, _⟩ :: rest =>
    if (handles.lookup handle).isSome then none
    else directives? versioned (handles ++ [(handle, expansion)]) rest
  | _, handles, tokens => some ⟨tokens, handles ++ standardHandles, []⟩

/-- Whether a document starts here with directives or with its mark. -/
def startsExplicitly : TokenKind → Bool
  | .version .. | .tagHandle .. | .documentStart => true
  | _ => false

/-- Whether the document before this token has no contents. -/
def endsDocument (kind : TokenKind) : Bool :=
  startsExplicitly kind || kind = .documentEnd || kind = .streamEnd

/-- The root of a document that starts with directives or with its mark. -/
def explicitRoot (tokens : List Token) : Composed Node :=
  match directives? false [] tokens with
  | some ⟨⟨.documentStart, _, _⟩ :: rest, handles, anchors⟩ =>
    match rest with
    | [] => (.broken, none)
    | t :: _ =>
      let s : Composer := ⟨rest, handles, anchors⟩
      if endsDocument t.kind then (.emptyAt t.start, some s) else s.node .inBlock
  | _ => (.broken, none)

/-- The root of the first document.  A text without documents has an empty one. -/
def root (tokens : List Token) : Composed Node :=
  match tokens with
  | [] => (.broken, none)
  | t :: rest =>
    let s : Composer := ⟨t :: rest, standardHandles, []⟩
    if t.kind = .streamEnd then (.emptyAt t.start, some s)
    else if startsExplicitly t.kind then explicitRoot (t :: rest)
    else s.node .inBlock

/-- Whether nothing but the end of the text is left. -/
def isFinished (s : Composer) : Bool :=
  match s.tokens.dropWhile (·.kind = .documentEnd) with
  | [t] => t.kind = .streamEnd
  | _ => false

end Composer

/-- The first document of a text. -/
structure Document where
  root : Node
  /-- Whether the text is well-formed and holds no other document. -/
  isOnly : Bool

namespace Document

/-- Whether the character may stand in a text. -/
def isPrintable (c : Char) : Bool :=
  c = '\t' || c = '\n' || c = '\r' || c = '\u0085' || (' ' ≤ c && c ≤ '~') ||
    ('\u00A0' ≤ c && c ≠ '\uFFFE' && c ≠ '\uFFFF')

/-- The document of the tokens of a text. -/
def ofTokens (tokens : List Token) : Document :=
  let (root, next) := Composer.root tokens
  ⟨root, next.any (·.isFinished)⟩

/-- The first document of a text. -/
def ofText (text : String) : Document :=
  let cs := text.toList
  -- the first token only says that the text starts
  if cs.all isPrintable then ofTokens ((Lexer.ofText cs).tokens.drop 1) else ⟨.broken, false⟩

end Document

end SovdConfig.Yaml
