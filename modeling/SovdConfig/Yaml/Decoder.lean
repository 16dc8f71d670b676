import SovdConfig.Yaml.Fault
import SovdConfig.Yaml.Node.Reader
import SovdConfig.Yaml.Scalar

namespace SovdConfig.Yaml

/-!
# Typed readers of YAML documents

Main definitions:

* `Reading` — a computation that follows aliases;
* `Spot` — a node and where it stands;
* `Spot.text`, `Spot.word`, `Spot.variant` — the scalar types;
* `Spot.members`, `Spot.items` — collections, part by part;
* `Value`, `Spot.value` — data whose type is not known beforehand;
* `Document.read` — a whole document.

Parts are read in the order of the text, so the first mismatch is the one that is reported, and a
mismatch is reported even if the text is not well-formed after it.
-/

/-- What aliases refer to, and how many of them may be followed. -/
structure Anchors where
  targets : List (Nat × Node)
  limit : Nat

/-- A computation that may follow aliases, counts those that it followed, and may fail. -/
abbrev Reading := ReaderT Anchors (StateT Nat (Except Fault))

namespace Reading

variable {α : Type}

/-- A failure. -/
def fail (e : Fault) : Reading α := fun _ _ => .error e

/-- A mismatch whose position is not known yet. -/
def misfit (reason : Mismatch) : Reading α := fail (.misfit reason none)

/-- The value of a result. -/
def ofResult (r : Except Mismatch α) : Reading α :=
  match r with
  | .ok a => pure a
  | .error reason => misfit reason

/-- With a position for a mismatch that has none. -/
def located (p : Position) (r : Reading α) : Reading α := fun anchors count =>
  match r anchors count with
  | .ok result => .ok result
  | .error e => .error (e.located p)

/-- The node that an alias names.  Each alias that is followed counts. -/
def follow (anchor : Nat) : Reading Node := fun anchors count =>
  if anchors.limit ≤ count then .error .malformed
  else
    -- numbers may be used again; then the later node counts
    match anchors.targets.reverse.lookup anchor with
    | some node => .ok (node, count + 1)
    | none => .error .malformed

end Reading

/-- A node, the way to it, and how many collections may still be entered. -/
structure Spot where
  node : Node
  route : Route
  depth : Nat

namespace Spot

variable {α : Type}

/-- What is read from the node itself, or from the node that it is an alias of.  A mismatch is
    reported where that node starts. -/
def reading (s : Spot) (read : Spot → Reading α) : Reading α :=
  let here (node : Node) : Reading α :=
    let s := { s with node }
    match node with
    | .scalar label .. | .sequence label .. | .mapping label .. =>
      (read s).located ⟨s.route, label.mark⟩
    | .reference .. | .broken => .fail .malformed
  match s.node with
  | .reference _ anchor => Reading.follow anchor >>= here
  | node => here node

/-- What was found in the place of something else. -/
def found : Node → Except Mismatch Found
  | .scalar label text style => (Plain.ofScalar label.tag text style).map Plain.found
  | .sequence .. => .ok .sequence
  | _ => .ok .mapping

/-- The node is of another kind. -/
def otherKind (s : Spot) (expected : String) : Reading α := do
  let found ← Reading.ofResult (found s.node)
  .misfit (.kind found expected)

/-! ### Scalars -/

/-- The text of a scalar, whatever its style. -/
def text (s : Spot) (expected : String) : Reading String :=
  s.reading fun s =>
    match s.node with
    | .scalar _ text _ => pure text
    | _ => s.otherKind expected

/-- Whether a scalar may denote an integer. -/
def mayBeInteger (label : Label) (style : ScalarStyle) : Bool :=
  style = .plain || (style = .literal && label.tag = some (Plain.coreTag "int"))

/-- An integer of 16 bits. -/
def word (s : Spot) : Reading UInt16 :=
  s.reading fun s =>
    match s.node with
    | .scalar label text style =>
      match (Plain.word? text).filter fun _ => mayBeInteger label style with
      | none => s.otherKind "u16"
      | some n =>
        if fitsUnsigned 16 n then pure (.ofNat n)
        else .misfit (.value (.integer (decimalText n)) "u16")
    | _ => s.otherKind "u16"

/-- The name that a tag of the document's own gives. -/
def ownTag? (tag : Option String) : Option String :=
  match tag.map String.toList with
  | some ['!'] => some "!"
  | some ('!' :: name) => some (String.ofList name)
  | _ => none

/-- The value of a name, of which the given ones are known. -/
def named (ofName? : String → Option α) (known : List String) (name : String) : Reading α :=
  match ofName? name with
  | some a => pure a
  | none => .misfit (.unknownVariant name known)

/-- A node that holds nothing besides its tag. -/
def emptyBesidesTag (s : Spot) : Reading Unit :=
  s.reading fun s =>
    match s.node with
    | .scalar _ text style =>
      if text = "" ∨ (style = .plain ∧ Plain.isNothing text) then pure ()
      else .misfit (.value (.string text) "null")
    | _ => s.otherKind "unit"

/-- The tag of a node. -/
def tagOf : Node → Option String
  | .scalar label .. | .sequence label .. | .mapping label .. => label.tag
  | .reference .. | .broken => none

/-- One of the values of an enumeration: its name as a scalar, or as a tag of an empty node.  A name
    that is a tag belongs to no position of its own. -/
def variant (s : Spot) (ofName? : String → Option α) (known : List String) : Reading α :=
  let ofTag (s : Spot) (name : String) : Reading α := do
    let a ← named ofName? known name
    s.emptyBesidesTag
    return a
  let untagged (s : Spot) : Reading α :=
    s.reading fun s =>
      match s.node with
      | .scalar _ name _ => named ofName? known name
      | _ => s.otherKind "a YAML tag starting with '!'"
  match s.node with
  | .reference mark anchor => do
    let node ← Reading.follow anchor
    let s := { s with node }
    match ownTag? (tagOf node) with
    | some name => (ofTag s name).located ⟨s.route, mark⟩
    | none => untagged s
  | node =>
    match ownTag? (tagOf node) with
    | some name => ofTag s name
    | none => untagged s

/-! ### Collections -/

/-- The node is there, whatever it holds. -/
def skip (s : Spot) : Reading Unit := if s.node.isWhole then pure () else .fail .malformed

/-- The levels of nesting that are left inside a collection. -/
def entered (s : Spot) : Reading Nat :=
  match s.depth with
  | 0 => .fail .malformed
  | depth + 1 => pure depth

/-- The way to the value of a key. -/
def memberRoute (parent : Route) : Node → Route
  | .scalar _ key _ => .member parent key
  | _ => .unnamed parent

/-- What is read from the members of a mapping, each in turn. -/
def foldMembers {σ : Type} (route : Route) (depth : Nat) (step : σ → Spot → Spot → Reading σ) :
    List (Node × Node) → σ → Reading σ
  | [], state => pure state
  | (k, v) :: rest, state => do
    let state ← step state ⟨k, route, depth⟩ ⟨v, memberRoute route k, depth⟩
    foldMembers route depth step rest state

/-- Whether a scalar stands for an empty collection. -/
def isAbsent : Node → Bool
  | .scalar _ text style => text = "" && style = .plain
  | _ => false

/-- What is read from a mapping.  What comes after the members sees the mapping's position. -/
def members {σ : Type} (s : Spot) (typeName : String) (start : σ)
    (step : σ → Spot → Spot → Reading σ) (finish : σ → Reading α) : Reading α :=
  s.reading fun s =>
    match s.node with
    | .mapping _ members => do
      let depth ← s.entered
      finish (← foldMembers s.route depth step members start)
    | node => if isAbsent node then finish start else s.otherKind ("struct " ++ typeName)

/-- What is read from the items of a sequence, each in turn. -/
def readItems (route : Route) (depth : Nat) (read : Spot → Reading α) :
    Nat → List Node → Reading (List α)
  | _, [] => pure []
  | index, n :: rest => do
    let a ← read ⟨n, .item route index, depth⟩
    let more ← readItems route depth read (index + 1) rest
    return a :: more

/-- What is read from a sequence. -/
def items (s : Spot) (read : Spot → Reading α) : Reading (List α) :=
  s.reading fun s =>
    match s.node with
    | .sequence _ items => do
      let depth ← s.entered
      readItems s.route depth read 0 items
    | node => if isAbsent node then pure [] else s.otherKind "a sequence"

end Spot

/-! ### Data of unknown type -/

/-- Data whose type is not known beforehand. -/
inductive Value
  | plain (p : Plain)
  | sequence (items : List Value)
  | mapping (members : List (Value × Value))
deriving Repr

namespace Spot

/-- A value without parts, of types that are told apart. -/
def plainValue (p : Plain) : Reading Value :=
  match p.found with
  | .named what => .misfit (.kind (.named what) "any value")
  | _ => pure (.plain p)

/-- Data whose type is not known beforehand, from a scalar. -/
def scalarValue (label : Label) (text : String) (style : ScalarStyle) : Reading Value := do
  let p ← Reading.ofResult (Plain.ofScalar label.tag text style)
  plainValue p

/-- Data whose type is not known beforehand, unless the node has a tag of the document's own. -/
def untagged (s : Spot) (read : Reading Value) : Reading Value :=
  if (ownTag? (tagOf s.node)).isSome then .misfit .taggedValue else read

/-- A member in front of those that were read before it. -/
def addPair (read : Spot → Reading Value) (pairs : List (Value × Value)) (k v : Spot) :
    Reading (List (Value × Value)) := do
  let key ← read k
  let value ← read v
  return (key, value) :: pairs

/-- Data whose type is not known beforehand, and how deep collections may be nested in it. -/
def valueFrom : Nat → Spot → Reading Value
  | 0, s => s.reading fun s => s.untagged <|
    match s.node with
    | .scalar label text style => scalarValue label text style
    | _ => .fail .malformed
  | levels + 1, s => s.reading fun s => s.untagged <|
    match s.node with
    | .scalar label text style => scalarValue label text style
    | .sequence _ items => do
      let values ← readItems s.route levels (valueFrom levels) 0 items
      return .sequence values
    | .mapping _ members => do
      let pairs ← foldMembers s.route levels (addPair (valueFrom levels)) members []
      -- each pair was put in front of those before it
      return .mapping pairs.reverse
    | _ => .fail .malformed

/-- Data whose type is not known beforehand. -/
def value (s : Spot) : Reading Value := valueFrom s.depth s

end Spot

namespace Document

/-- How deep collections may be nested. -/
def nestingLimit : Nat := 128

/-- What is read from a document.  Aliases may be followed a hundred times as often as the document
    has places. -/
def read {α : Type} (d : Document) (read : Spot → Reading α) : Except Fault α :=
  match read ⟨d.root, .root, nestingLimit⟩ ⟨d.root.anchored, 100 * d.root.size⟩ 0 with
  | .ok (a, _) => if d.isOnly then .ok a else .error .malformed
  | .error e => .error e

end Document

end SovdConfig.Yaml
