import SovdConfig.Text.Utf8
import SovdConfig.Yaml.ScalarText

namespace SovdConfig.Yaml

/-!
# Anchors, tags and directives

Main definitions:

* `readName?` — the name of an anchor or an alias;
* `readTag?` — a tag: its handle and its suffix;
* `readDirective?` — a directive: a version, or a tag handle.
-/

/-- Whether an anchor's name may end before this character. -/
def endsAnchor : List Char → Bool
  | [] => true
  | c :: _ => isSpace c || "?:,]\x7d%@`".toList.contains c

/-- The name of an anchor or an alias, from its indicator on. -/
def readName? (c : Cursor) : Option (String × Cursor) :=
  let c := c.skip 1
  let name := c.rest.takeWhile isNameChar
  let c := c.skip name.length
  if name = [] ∨ !endsAnchor c.rest then none else some (String.ofList name, c)

/-! ### Tags -/

/-- Whether the character may stand in a tag as it is. -/
def isTagChar (verbatim : Bool) (c : Char) : Bool :=
  isNameChar c || ";/?:@&=+$.!~*'()".toList.contains c ||
    (verbatim && (c = ',' || c = '[' || c = ']'))

/-- How many bytes a character has whose first byte is given. -/
def utf8Length? (b : Nat) : Option Nat :=
  if b < 0x80 then some 1
  else if b / 0x20 = 6 then some 2
  else if b / 0x10 = 14 then some 3
  else if b / 0x08 = 30 then some 4
  else none

/-- The byte of an escape. -/
def escapedByte? : List Char → Option Nat
  | '%' :: a :: b :: _ => do return (← hexValue? a) * 16 + (← hexValue? b)
  | _ => none

/-- The bytes of so many more escapes inside a character. -/
def escapedTail? : Nat → List Char → Option (List UInt8)
  | 0, _ => some []
  | count + 1, cs => do
    let b ← escapedByte? cs
    if b / 0x40 = 2 then
      let bytes ← escapedTail? count (cs.drop 3)
      return UInt8.ofNat b :: bytes
    else none

/-- The bytes of the escapes of one character. -/
def escapedChar? (cs : List Char) : Option (List UInt8) := do
  let b ← escapedByte? cs
  let count ← utf8Length? b
  let bytes ← escapedTail? (count - 1) (cs.drop 3)
  return UInt8.ofNat b :: bytes

/-- The bytes of a tag's characters and escapes, and how many characters they take. -/
def tagBytes? (verbatim : Bool) : Nat → List Char → Option (List UInt8 × Nat)
  | 0, _ => some ([], 0)
  | _, [] => some ([], 0)
  | fuel + 1, c :: rest =>
    if c = '%' then do
      let bytes ← escapedChar? (c :: rest)
      -- each byte is written as a percent sign and two digits
      let taken := 3 * bytes.length
      let (more, count) ← tagBytes? verbatim fuel ((c :: rest).drop taken)
      return (bytes ++ more, taken + count)
    else if isTagChar verbatim c then do
      let (more, count) ← tagBytes? verbatim fuel rest
      return (Text.encodeUtf8 (String.ofList [c]) ++ more, count + 1)
    else some ([], 0)

/-- The characters of a tag after those of its head.  There must be one or the other. -/
def readTagText? (verbatim : Bool) (head : List Char) (c : Cursor) : Option (String × Cursor) := do
  let (bytes, count) ← tagBytes? verbatim c.rest.length c.rest
  if head = [] ∧ count = 0 then none
  else some (String.ofList (head.drop 1) ++ Text.decodeLossy bytes, c.skip count)

/-- An exclamation mark, a name, and a second exclamation mark if there is one. -/
def readHandle? (c : Cursor) : Option (List Char × Cursor) :=
  if !c.startsWith '!' then none
  else
    let c := c.skip 1
    let name := c.rest.takeWhile isNameChar
    let c := c.skip name.length
    if c.startsWith '!' then some ('!' :: name ++ ['!'], c.skip 1) else some ('!' :: name, c)

/-- Whether an exclamation mark is at both ends. -/
def isFullHandle (handle : List Char) : Bool :=
  2 ≤ handle.length && handle.getLast? == some '!'

/-- A tag without its end: a verbatim one, one with a handle, or one with the primary handle. -/
def readTagParts? (c : Cursor) : Option (String × String × Cursor) :=
  if c.rest[1]? = some '<' then do
    let (suffix, c) ← readTagText? true [] (c.skip 2)
    if c.startsWith '>' then some ("", suffix, c.skip 1) else none
  else do
    let (handle, c) ← readHandle? c
    if isFullHandle handle then
      let (suffix, c) ← readTagText? false [] c
      return (String.ofList handle, suffix, c)
    else
      -- what looked like a handle is the start of the tag; a mark by itself is a tag, too
      let (suffix, c) ← readTagText? false handle c
      return if suffix = "" then ("", "!", c) else ("!", suffix, c)

/-- A tag, from its exclamation mark on.  In a flow collection a comma may follow it. -/
def readTag? (inFlow : Bool) (c : Cursor) : Option (String × String × Cursor) := do
  let (handle, suffix, c) ← readTagParts? c
  if endsWord c.rest ∨ (inFlow ∧ c.startsWith ',') then some (handle, suffix, c) else none

/-! ### Directives -/

/-- What a directive says. -/
inductive Directive
  | version (major minor : Nat)
  | tagHandle (handle expansion : String)
deriving DecidableEq, Repr

/-- A number of at most nine digits. -/
def readVersionNumber? (c : Cursor) : Option (Nat × Cursor) :=
  let digits := c.rest.takeWhile Char.isDigit
  if digits = [] ∨ 9 < digits.length then none
  else
    some (digits.foldl (fun n d => 10 * n + (d.toNat - 0x30)) 0, c.skip digits.length)

/-- The value of a version directive. -/
def readVersion? (c : Cursor) : Option (Directive × Cursor) := do
  let (major, c) ← readVersionNumber? (c.skipRun isBlank)
  if !c.startsWith '.' then none
  else
    let (minor, c) ← readVersionNumber? (c.skip 1)
    return (.version major minor, c)

/-- The value of a tag directive. -/
def readTagHandle? (c : Cursor) : Option (Directive × Cursor) := do
  let (handle, c) ← readHandle? (c.skipRun isBlank)
  if handle ≠ ['!'] ∧ !isFullHandle handle then none
  else if !c.rest.head?.any isBlank then none
  else
    let (expansion, c) ← readTagText? true [] (c.skipRun isBlank)
    if endsWord c.rest then some (.tagHandle (String.ofList handle) expansion, c) else none

/-- A directive up to the end of its line. -/
def readDirective? (c : Cursor) : Option (Directive × Cursor) := do
  let c := c.skip 1
  let name := c.rest.takeWhile isNameChar
  let c := c.skip name.length
  if name = [] ∨ !endsWord c.rest then none
  else
    let (directive, c) ←
      if name = "YAML".toList then readVersion? c
      else if name = "TAG".toList then readTagHandle? c
      else none
    let c ← c.finishLine?
    return (directive, c)

end SovdConfig.Yaml
