import SovdConfig.Json.Numeral
import SovdConfig.Json.Quoted

namespace SovdConfig.Json

/-!
# Reading JSON texts

The grammar of values.  Main definitions:

* `nextItem`, `nextName`, `readColon` — the punctuation of lists and objects;
* `inList`, `inObject` — a reader for the inside of a list or an object, with the nesting limit;
* `readValue` — any value;
* `skipValue` — the end of a value that is not wanted, however deep it is.

A failure says how many bytes of the text were unread when it showed.  A mismatch in the contents
of a list or an object shows only after the closing bracket, if that comes next.
-/

/-- How many containers may be nested, and one more. -/
def nestingLimit : Nat := 128

/-- Whether the character is blank space. -/
def isBlank (c : Char) : Bool := c = ' ' || c = '\n' || c = '\t' || c = '\r'

/-- The text from its first character that is not blank. -/
def skipBlank (cs : List Char) : List Char := cs.dropWhile isBlank

/-- The given letters, after those that told the word. -/
def readWord : List Char → List Char → Except Failure (List Char)
  | [], cs => .ok cs
  | _ :: _, [] => .error (.before .endInValue [])
  | w :: word, c :: rest =>
    if c = w then readWord word rest else .error (.after .expectedWord (c :: rest))

/-- The start of the next item of a list, or `none` before its end. -/
def nextItem (isFirst : Bool) (cs : List Char) : Except Failure (Option (List Char)) :=
  match skipBlank cs with
  | [] => .error (.before .endInList [])
  | c :: rest =>
    if c = ']' then .ok none
    else if isFirst then .ok (some (c :: rest))
    else if c = ',' then
      match skipBlank rest with
      | [] => .error (.before .endInValue [])
      | d :: rest =>
        if d = ']' then .error (.after .trailingComma (d :: rest)) else .ok (some (d :: rest))
    else .error (.after .expectedListEnd (c :: rest))

/-- The text after the opening quote of the next name in an object, or `none` before its end. -/
def nextName (isFirst : Bool) (cs : List Char) : Except Failure (Option (List Char)) :=
  match skipBlank cs with
  | [] => .error (.before .endInObject [])
  | c :: rest =>
    if c = '\x7d' then .ok none
    else if isFirst then
      if c = '"' then .ok (some rest) else .error (.after .nameNotString (c :: rest))
    else if c = ',' then
      match skipBlank rest with
      | [] => .error (.before .endInValue [])
      | d :: rest =>
        if d = '"' then .ok (some rest)
        else if d = '\x7d' then .error (.after .trailingComma (d :: rest))
        else .error (.after .nameNotString (d :: rest))
    else .error (.after .expectedObjectEnd (c :: rest))

/-- The colon between a name and its value. -/
def readColon (cs : List Char) : Except Failure (List Char) :=
  match skipBlank cs with
  | [] => .error (.before .endInObject [])
  | c :: rest => if c = ':' then .ok rest else .error (.after .expectedColon (c :: rest))

/-- The end of a list. -/
def closeList (cs : List Char) : Except Failure (List Char) :=
  match skipBlank cs with
  | [] => .error (.before .endInList [])
  | c :: rest =>
    if c = ']' then .ok rest
    else if c = ',' then
      match skipBlank rest with
      | d :: rest =>
        .error (.after (if d = ']' then .trailingComma else .trailingText) (d :: rest))
      | [] => .error (.before .trailingText [])
    else .error (.after .trailingText (c :: rest))

/-- The text that is left after an attempt to end a list. -/
def passListEnd (cs : List Char) : List Char :=
  match skipBlank cs with
  | [] => []
  | c :: rest => if c = ']' then rest else if c = ',' then skipBlank rest else c :: rest

/-- The end of an object. -/
def closeObject (cs : List Char) : Except Failure (List Char) :=
  match skipBlank cs with
  | [] => .error (.before .endInObject [])
  | c :: rest =>
    if c = '\x7d' then .ok rest
    else .error (.after (if c = ',' then .trailingComma else .trailingText) (c :: rest))

/-- The text that is left after an attempt to end an object. -/
def passObjectEnd (cs : List Char) : List Char :=
  match skipBlank cs with
  | [] => []
  | c :: rest => if c = '\x7d' then rest else c :: rest

/-- A container around what a reader reads: one level of nesting is used up, the closing bracket
    follows, and a mismatch inside is placed where the attempt to end the container leads. -/
def inContainer {α : Type} (close : List Char → Except Failure (List Char))
    (pass : List Char → List Char) (depth : Nat) (body : Nat → Reader α) : Reader α := fun cs =>
  if depth ≤ 1 then .error (.after .tooDeep cs)
  else
    match body (depth - 1) cs.tail with
    | .ok (a, rest) => (close rest).map fun rest => (a, rest)
    | .error (.unplaced mismatch rest) => .error (.before (.shape mismatch) (pass rest))
    | .error failure => .error failure

/-- A list, from its opening bracket. -/
def inList {α : Type} : Nat → (Nat → Reader α) → Reader α := inContainer closeList passListEnd

/-- An object, from its opening bracket. -/
def inObject {α : Type} : Nat → (Nat → Reader α) → Reader α :=
  inContainer closeObject passObjectEnd

/-- The items of a list up to its end.  Each step reads at least one character. -/
def readItems {α : Type} (item : Reader α) : Nat → Bool → Reader (List α)
  | 0, _, cs => .error (.before .expectedListEnd cs)
  | fuel + 1, isFirst, cs => do
    match ← nextItem isFirst cs with
    | none => return ([], cs)
    | some cs =>
      let (a, rest) ← item cs
      let (as, rest) ← readItems item fuel false rest
      return (a :: as, rest)

/-- The members of an object up to its end. -/
def readMembers {α : Type} (value : Reader α) : Nat → Bool → Reader (List (String × α))
  | 0, _, cs => .error (.before .expectedObjectEnd cs)
  | fuel + 1, isFirst, cs => do
    match ← nextName isFirst cs with
    | none => return ([], cs)
    | some cs =>
      let (name, rest) ← readString cs
      let rest ← readColon rest
      let (a, rest) ← value rest
      let (as, rest) ← readMembers value fuel false rest
      return ((name, a) :: as, rest)

/-- Any value, with the levels of nesting that are left. -/
def readValue : Nat → Reader Json
  | 0, cs => .error (.after .tooDeep cs)
  | depth + 1, cs =>
    match skipBlank cs with
    | [] => .error (.before .endInValue [])
    | c :: rest =>
      if c = 'n' then do
        let rest ← readWord ['u', 'l', 'l'] rest
        return (.null, rest)
      else if c = 't' then do
        let rest ← readWord ['r', 'u', 'e'] rest
        return (.bool true, rest)
      else if c = 'f' then do
        let rest ← readWord ['a', 'l', 's', 'e'] rest
        return (.bool false, rest)
      else if c = '-' then do
        let (n, rest) ← readNumber true rest
        return (.number n, rest)
      else if c.isDigit then do
        let (n, rest) ← readNumber false (c :: rest)
        return (.number n, rest)
      else if c = '"' then do
        let (s, rest) ← readString rest
        return (.string s, rest)
      else if c = '[' then do
        let (items, rest) ←
          inList (depth + 1) (fun _ cs => readItems (readValue depth) (cs.length + 1) true cs)
            (c :: rest)
        return (.array items, rest)
      else if c = '\x7b' then do
        let (members, rest) ←
          inObject (depth + 1) (fun _ cs => readMembers (readValue depth) (cs.length + 1) true cs)
            (c :: rest)
        return (ofMembers members, rest)
      else .error (.after .expectedValue (c :: rest))

/-- The end of a list that is not wanted, given how to skip an item. -/
def skipItems (skip : List Char → Except Failure (List Char)) :
    Nat → Bool → List Char → Except Failure (List Char)
  | 0, _, cs => .error (.before .expectedListEnd cs)
  | fuel + 1, isFirst, cs =>
    match skipBlank cs with
    | [] => .error (.before .endInList [])
    | c :: rest =>
      if c = ']' then .ok rest
      else if isFirst then do
        let rest ← skip (c :: rest)
        skipItems skip fuel false rest
      else if c = ',' then do
        let rest ← skip rest
        -- an item must follow, so a bracket here is a fault of the item that is missing
        skipItems skip fuel false rest
      else .error (.after .expectedListEnd (c :: rest))

/-- The end of a member that is not wanted, from its name on. -/
def skipMember (skip : List Char → Except Failure (List Char)) (cs : List Char) :
    Except Failure (List Char) :=
  match skipBlank cs with
  | [] => .error (.before .endInObject [])
  | c :: rest =>
    if c = '"' then do
      let rest ← skipString rest
      let rest ← readColon rest
      skip rest
    else .error (.after .nameNotString (c :: rest))

/-- The end of an object that is not wanted, given how to skip a value. -/
def skipMembers (skip : List Char → Except Failure (List Char)) :
    Nat → Bool → List Char → Except Failure (List Char)
  | 0, _, cs => .error (.before .expectedObjectEnd cs)
  | fuel + 1, isFirst, cs =>
    match skipBlank cs with
    | [] => .error (.before .endInObject [])
    | c :: rest =>
      if c = '\x7d' then .ok rest
      else if isFirst then do
        let rest ← skipMember skip (c :: rest)
        skipMembers skip fuel false rest
      else if c = ',' then do
        let rest ← skipMember skip rest
        skipMembers skip fuel false rest
      else .error (.after .expectedObjectEnd (c :: rest))

/-- The end of a value that is not wanted.  It is nested at most as deep as it is long, and no
    container has more parts. -/
def skipNested : Nat → List Char → Except Failure (List Char)
  | 0, cs => .error (.before .expectedValue cs)
  | fuel + 1, cs =>
    match skipBlank cs with
    | [] => .error (.before .endInValue [])
    | c :: rest =>
      if c = 'n' then readWord ['u', 'l', 'l'] rest
      else if c = 't' then readWord ['r', 'u', 'e'] rest
      else if c = 'f' then readWord ['a', 'l', 's', 'e'] rest
      else if c = '-' then skipNumber rest
      else if c.isDigit then skipNumber (c :: rest)
      else if c = '"' then skipString rest
      else if c = '[' then skipItems (skipNested fuel) fuel true rest
      else if c = '\x7b' then skipMembers (skipNested fuel) fuel true rest
      else .error (.after .expectedValue (c :: rest))

/-- The end of a value that is not wanted. -/
def skipValue (cs : List Char) : Except Failure (List Char) := skipNested (cs.length + 1) cs

/-- A whole text: what the reader reads, then only blank space. -/
def readAll {α : Type} (reader : Nat → Reader α) (text : String) : Except TextError α :=
  let cs := text.toList
  let result : Except Failure α := do
    let (a, rest) ← reader nestingLimit cs
    match skipBlank rest with
    | [] => .ok a
    | c :: rest => .error (.after .trailingText (c :: rest))
  match result with
  | .ok a => .ok a
  | .error (.at fault unread) => .error (TextError.ofUnread fault cs unread)
  | .error (.unplaced mismatch rest) =>
    .error (TextError.ofUnread (.shape mismatch) cs (bytesOf rest))

/-- The value of a whole text. -/
def ofText (text : String) : Except TextError Json := readAll readValue text

end SovdConfig.Json
