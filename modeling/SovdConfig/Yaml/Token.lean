import SovdConfig.Yaml.Cursor

namespace SovdConfig.Yaml

/-!
# Tokens of YAML texts

Main definitions:

* `ScalarStyle` — how a scalar is written;
* `TokenKind`, `Token` — the tokens, each with the places where it starts and stops.

Indentation is made explicit: a block collection has a token at its start and one at its end.
-/

/-- How a scalar is written. -/
inductive ScalarStyle
  | plain
  | singleQuoted
  | doubleQuoted
  | literal
  | folded
deriving DecidableEq, Repr

/-- What a token is. -/
inductive TokenKind
  | streamStart
  | streamEnd
  | version (major minor : Nat)
  /-- A directive that declares a tag handle. -/
  | tagHandle (handle expansion : String)
  | documentStart
  | documentEnd
  | blockSequenceStart
  | blockMappingStart
  | blockEnd
  | flowSequenceStart
  | flowSequenceEnd
  | flowMappingStart
  | flowMappingEnd
  | blockEntry
  | flowEntry
  | key
  | value
  | reference (name : String)
  | anchor (name : String)
  | tag (handle suffix : String)
  | scalar (text : String) (style : ScalarStyle)
deriving DecidableEq, Repr, Inhabited

/-- A token, and the places before and after it. -/
structure Token where
  kind : TokenKind
  start : Mark
  stop : Mark
deriving DecidableEq, Repr, Inhabited

end SovdConfig.Yaml
