import SovdConfig.Text.Utf8

namespace SovdConfig

/-!
# Paths

A path is a byte string; slashes part it into segments.  Main definitions:

* `Path` — the bytes;
* `Path.display` — the path as text;
* `Path.parent?`, `Path.fileName?`, `Path.join` — taking paths apart and putting them together;
* `Path.relativeTo` — one absolute path seen from another;
* `Path.definitions` — where the definitions go that accompany a configuration.

Empty segments and segments `.` count for nothing, except for a `.` that starts a relative path.
-/

/-- A string of bytes. -/
abbrev Bytes := List UInt8

/-- A path, as the bytes the system knows it by. -/
structure Path where
  bytes : Bytes
deriving DecidableEq, Repr, Inhabited

namespace Path

/-- The byte of a slash. -/
def slash : UInt8 := 0x2F

/-- The byte of a dot. -/
def dot : UInt8 := 0x2E

/-- The path that a text names. -/
def ofText (text : String) : Path := ⟨Text.encodeUtf8 text⟩

/-- The path as text; bytes that are no text become U+FFFD. -/
def display (p : Path) : String := Text.decodeLossy p.bytes

/-- The path as text, if it is text. -/
def text? (p : Path) : Option String := Text.decodeUtf8? p.bytes

/-- Whether the path is empty. -/
def isEmpty (p : Path) : Bool := p.bytes.isEmpty

/-- Whether the path starts at the root. -/
def isAbsolute (p : Path) : Bool := p.bytes.head? == some slash

/-- The segments of bytes between slashes, empty ones included. -/
def split : Bytes → List Bytes
  | [] => [[]]
  | b :: rest =>
    match split rest with
    | [] => [[b]]
    | seg :: segs => if b = slash then [] :: seg :: segs else (b :: seg) :: segs

/-- The segments of the path. -/
def segments (p : Path) : List Bytes := split p.bytes

/-- Segments put together with slashes. -/
def ofSegments (segs : List Bytes) : Path := ⟨[slash].intercalate segs⟩

/-- Whether a segment names nothing. -/
def isIdle (seg : Bytes) : Bool := seg = [] || seg = [dot]

/-- Whether the segments start with a dot that counts: the first of a relative path. -/
def startsAtDot (segs : List Bytes) : Bool := segs.head? == some [dot]

/-- How many segments there are up to the last one that counts; `none` if none does. -/
def lastCounting? (segs : List Bytes) : Option Nat :=
  let kept := segs.length - (segs.reverse.takeWhile isIdle).length
  if kept ≠ 0 then some kept else if startsAtDot segs then some 1 else none

/-- The path up to the last of so many segments. -/
def keep (p : Path) (count : Nat) : Path :=
  let segs := p.segments.take count
  match lastCounting? segs with
  | some kept => ofSegments (segs.take kept)
  | none => if p.isAbsolute then ⟨[slash]⟩ else ⟨[]⟩

/-- The path without its last segment; the root and the empty path have no parent. -/
def parent? (p : Path) : Option Path :=
  (lastCounting? p.segments).map fun count => p.keep (count - 1)

/-- The last segment, if it is the name of something. -/
def fileName? (p : Path) : Option Bytes := do
  let count ← lastCounting? p.segments
  let name ← (p.segments.take count).getLast?
  if name = [dot] ∨ name = [dot, dot] then none else some name

/-- The path as it is up to its file name, with bytes appended to the name. -/
def extendName? (p : Path) (more : Bytes) : Option Path := do
  let count ← lastCounting? p.segments
  let _ ← p.fileName?
  return ⟨(ofSegments (p.segments.take count)).bytes ++ more⟩

/-- A path below another one; an absolute path stands for itself. -/
def join (p q : Path) : Path :=
  if q.isAbsolute then q
  else if p.bytes = [] ∨ p.bytes.getLast? = some slash then ⟨p.bytes ++ q.bytes⟩
  else ⟨p.bytes ++ slash :: q.bytes⟩

/-- The segments that count. -/
def names (p : Path) : List Bytes := p.segments.filter fun seg => !isIdle seg

/-- What is left of two lists when the elements are removed with which both start. -/
def dropShared : List Bytes → List Bytes → List Bytes × List Bytes
  | a :: as, b :: bs => if a = b then dropShared as bs else (a :: as, b :: bs)
  | as, bs => (as, bs)

/-- An absolute path as it is seen from an absolute directory: up as often as needed, then
    down. -/
def relativeTo (p base : Path) : Path :=
  let (down, up) := dropShared p.names base.names
  ofSegments (List.replicate up.length [dot, dot] ++ down)

/-- The ending of a configuration's file name that is replaced for its definitions. -/
def configurationEnding : String := ".toml"

/-- The ending of the file name of definitions. -/
def definitionsEnding : String := "-dids.yaml"

/-- Characters without an ending, if they have it. -/
def dropEnding (ending cs : List Char) : List Char :=
  if ending.isSuffixOf cs then cs.take (cs.length - ending.length) else cs

/-- Where the definitions go that accompany the configuration of the given path. -/
def definitions (p : Path) : Path :=
  ofText (String.ofList
    (dropEnding configurationEnding.toList p.display.toList ++ definitionsEnding.toList))

/-- The path of a text displays as that text. -/
theorem display_ofText (text : String) : (ofText text).display = text :=
  Text.decodeLossy_encodeUtf8 text

end Path

end SovdConfig
