import SovdConfig.Mismatch
import SovdConfig.Text.Utf8

namespace SovdConfig

/-!
# Faults of JSON texts

Main definitions:

* `Json.Fault` — what is wrong with a text;
* `Json.Fault.category` — a text that ends too early, one that is no JSON, or one that is JSON of
  the wrong shape;
* `Json.TextError` — a fault and the place where it shows.
-/

namespace Json

/-- What is wrong with a text. -/
inductive Fault
  | endInList
  | endInObject
  | endInString
  | endInValue
  | expectedColon
  | expectedListEnd
  | expectedObjectEnd
  | expectedWord
  | expectedValue
  | badEscape
  | badNumber
  | numberTooLarge
  | controlCharacter
  | nameNotString
  | loneSurrogate
  | trailingComma
  | trailingText
  | endOfEscape
  | tooDeep
  /-- The text is JSON and of the wrong shape. -/
  | shape (mismatch : Mismatch)
deriving DecidableEq, Repr

/-- The three kinds of faults. -/
inductive Category
  | cutOff
  | malformed
  | wrongShape
deriving DecidableEq, Repr

namespace Fault

/-- The kind of a fault. -/
def category : Fault → Category
  | endInList | endInObject | endInString | endInValue => .cutOff
  | shape _ => .wrongShape
  | _ => .malformed

/-- The words for a fault. -/
def message : Fault → String
  | endInList => "EOF while parsing a list"
  | endInObject => "EOF while parsing an object"
  | endInString => "EOF while parsing a string"
  | endInValue => "EOF while parsing a value"
  | expectedColon => "expected `:`"
  | expectedListEnd => "expected `,` or `]`"
  | expectedObjectEnd => "expected `,` or `\x7d`"
  | expectedWord => "expected ident"
  | expectedValue => "expected value"
  | badEscape => "invalid escape"
  | badNumber => "invalid number"
  | numberTooLarge => "number out of range"
  | controlCharacter => "control character (\\u0000-\\u001F) found while parsing a string"
  | nameNotString => "key must be a string"
  | loneSurrogate => "lone leading surrogate in hex escape"
  | trailingComma => "trailing comma"
  | trailingText => "trailing characters"
  | endOfEscape => "unexpected end of hex escape"
  | tooDeep => "recursion limit exceeded"
  | shape mismatch => mismatch.message

end Fault

/-- A fault and its place: the line, counted from one, and the number of bytes of that line before
    the place. -/
structure TextError where
  fault : Fault
  line : Nat
  column : Nat
deriving DecidableEq, Repr

namespace TextError

/-- The words for a fault with its place. -/
def message (e : TextError) : String :=
  e.fault.message ++ " at line " ++ decimalText e.line ++ " column " ++ decimalText e.column

/-- A fault that shows when so many bytes of the text are still unread. -/
def ofUnread (fault : Fault) (text : List Char) (unread : Nat) : TextError :=
  let bytes := Text.encodeUtf8 (String.ofList text)
  let seen := bytes.take (bytes.length - unread)
  ⟨fault, 1 + seen.count 10, (seen.reverse.takeWhile (· ≠ 10)).length⟩

end TextError

/-- How reading stops: at a place given by the number of bytes after it, or over a mismatch that
    has no place yet, with the text that follows. -/
inductive Failure
  | at (fault : Fault) (unread : Nat)
  | unplaced (mismatch : Mismatch) (rest : List Char)
deriving DecidableEq, Repr

/-- The number of bytes of a text. -/
def bytesOf (cs : List Char) : Nat := cs.foldr (fun c n => c.utf8Size + n) 0

namespace Failure

/-- A failure before the rest of the text. -/
def before (fault : Fault) (rest : List Char) : Failure := .at fault (bytesOf rest)

/-- A failure after the next byte of the text. -/
def after (fault : Fault) (rest : List Char) : Failure := .at fault (bytesOf rest - 1)

/-- A mismatch without a place is placed before the given text. -/
def place (rest : List Char) : Failure → Failure
  | .at fault unread => .at fault unread
  | .unplaced mismatch _ => before (.shape mismatch) rest

end Failure

/-- A reader takes a value off the start of a text. -/
abbrev Reader (α : Type) := List Char → Except Failure (α × List Char)

end Json

end SovdConfig
