import SovdConfig.Environment
import SovdConfig.Text.Quoted

namespace SovdConfig

/-!
# Variables and the home directory in paths

Main definitions:

* `Expansion.expandVariables` — `$NAME` and `${NAME:-default}` become the values of variables;
* `Expansion.expandText` — the same, and then a `~` at the start becomes the home directory;
* `Expansion.expandPath` — the same for a path; a path that is no text stays as it is.

What a variable brings in is not expanded again, except that a `~` written at the start stays the
start.
-/

/-- Why a text cannot be expanded: a variable without a default is not set, or is no text. -/
inductive ExpansionFault
  | notSet (name : String)
  | notText (name : String) (value : Bytes)
deriving DecidableEq, Repr

namespace ExpansionFault

/-- What is wrong with the variable. -/
def cause : ExpansionFault → String
  | notSet _ => "environment variable not found"
  | notText _ value => "environment variable was not valid unicode: " ++ Text.quote value

/-- The name of the variable. -/
def name : ExpansionFault → String
  | notSet name => name
  | notText name _ => name

/-- The fault and its causes, outermost first. -/
def chain (e : ExpansionFault) : List String :=
  ["expanding path", "error looking key '" ++ e.name ++ "' up: " ++ e.cause, e.cause]

end ExpansionFault

namespace Expansion

/-- The value of a variable as text. -/
def lookup (env : Environment) (name : List Char) : Except ExpansionFault (List Char) :=
  let name := String.ofList name
  match env.get? name with
  | none => .error (.notSet name)
  | some value =>
    match Text.decodeUtf8? value with
    | some text => .ok text.toList
    | none => .error (.notText name value)

/-- The value of a variable as text, or else a default. -/
def lookupOr (env : Environment) (name : List Char) (default : Option (List Char)) :
    Except ExpansionFault (List Char) :=
  match lookup env name, default with
  | .ok value, _ => .ok value
  | .error _, some value => .ok value
  | .error e, none => .error e

/-- Whether the character may stand in a bare variable name. -/
def isNameChar (c : Char) : Bool := Text.isAlphanumeric c || c = '_'

/-- The text before the first `:-`, and the text after it. -/
def splitDefault : List Char → Option (List Char × List Char)
  | [] => none
  | ':' :: '-' :: rest => some ([], rest)
  | c :: rest => (splitDefault rest).map fun (name, default) => (c :: name, default)

/-- The name and the default of a variable in braces.  A default needs a name before it. -/
def nameAndDefault (inside : List Char) : List Char × Option (List Char) :=
  match splitDefault inside with
  | some (c :: name, default) => (c :: name, some default)
  | _ => (inside, none)

/-- The text with the values of variables.  Each step reads at least one character. -/
def expandFrom (env : Environment) : Nat → List Char → Except ExpansionFault (List Char)
  | 0, cs => .ok cs
  | _ + 1, [] => .ok []
  | fuel + 1, c :: rest =>
    if c ≠ '$' then (expandFrom env fuel rest).map (c :: ·)
    else
      match rest with
      | '\x7b' :: after =>
        let inside := after.takeWhile (· ≠ '\x7d')
        match after.dropWhile (· ≠ '\x7d') with
        -- a brace that is not closed is text
        | [] => (expandFrom env fuel after).map ('$' :: '\x7b' :: ·)
        | _ :: tail => do
          let (name, default) := nameAndDefault inside
          let value ← lookupOr env name default
          let tail ← expandFrom env fuel tail
          return value ++ tail
      -- two dollar signs stand for one
      | '$' :: after => (expandFrom env fuel after).map ('$' :: ·)
      | _ =>
        let name := rest.takeWhile isNameChar
        if name = [] then (expandFrom env fuel rest).map ('$' :: ·)
        else do
          let value ← lookup env name
          let tail ← expandFrom env fuel (rest.dropWhile isNameChar)
          return value ++ tail

/-- The text with the values of variables in place of their names. -/
def expandVariables (env : Environment) (cs : List Char) : Except ExpansionFault (List Char) :=
  expandFrom env cs.length cs

/-- The text with the home directory in place of a `~` that stands alone or before a slash. -/
def expandHome (env : Environment) (cs : List Char) : List Char :=
  match cs with
  | '~' :: rest =>
    if rest = [] ∨ rest.head? = some '/' then
      match env.home?.bind Path.text? with
      | some home => home.toList ++ rest
      | none => cs
    else cs
  | _ => cs

/-- The text with variables and the home directory. -/
def expandText (env : Environment) (text : String) : Except ExpansionFault String := do
  let cs := text.toList
  let expanded ← expandVariables env cs
  -- a `~` that a variable has brought to the start is left alone
  return String.ofList (if cs.head? = some '~' then expandHome env expanded else expanded)

/-- The path with variables and the home directory. -/
def expandPath (env : Environment) (p : Path) : Except ExpansionFault Path :=
  match p.text? with
  | some text => (expandText env text).map Path.ofText
  | none => .ok p

end Expansion

end SovdConfig
