import SovdConfig.Number.Digits
import SovdConfig.Text.ClassTable
import SovdConfig.Text.Utf8

namespace SovdConfig.Text

/-!
# Quoted text

Text as a report shows it between double quotes, so that every byte can be told: the usual short
escapes, `\u{…}` for what does not print by itself, `\xNN` for bytes that are no character.
Main definitions:

* `isAlphanumeric` — letters and numbers of any script;
* `quote` — the quoted form of bytes;
* `quoteText` — the quoted form of a text.
-/

/-- Whether the character is a letter or a number of any script. -/
def isAlphanumeric (c : Char) : Bool := CodeRange.covers alphanumericRanges c.toNat

/-- Whether the character stands for itself in quoted text: it shows something and does not attach
    to the character before it. -/
def standsAlone (c : Char) : Bool :=
  CodeRange.covers printableRanges c.toNat && !CodeRange.covers graphemeExtendRanges c.toNat

/-- One character inside the quotes. -/
def quoteChar (c : Char) : List Char :=
  if c = '\t' then ['\\', 't']
  else if c = '\r' then ['\\', 'r']
  else if c = '\n' then ['\\', 'n']
  else if c = '\\' then ['\\', '\\']
  else if c = '"' then ['\\', '"']
  else if c = '\x00' then ['\\', '0']
  else if standsAlone c then [c]
  else ['\\', 'u', '\x7b'] ++ hexDigits false c.toNat ++ ['\x7d']

/-- One byte that belongs to no character. -/
def quoteByte (b : UInt8) : List Char :=
  '\\' :: 'x' :: padLeft 2 (hexDigits true b.toNat)

/-- A stretch of bytes inside the quotes.  Unlike in a text, an apostrophe is escaped. -/
def Chunk.quote : Chunk → List Char
  | .char c => if c = '\'' then ['\\', '\''] else quoteChar c
  | .stray bytes => bytes.flatMap quoteByte

/-- Bytes as a report quotes them. -/
def quote (bytes : List UInt8) : String :=
  String.ofList ('"' :: (chunks bytes).flatMap Chunk.quote ++ ['"'])

/-- A text as a report quotes it. -/
def quoteText (text : String) : String :=
  String.ofList ('"' :: text.toList.flatMap quoteChar ++ ['"'])

end SovdConfig.Text
