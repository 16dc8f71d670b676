import SovdConfig.Log.Record
import SovdConfig.Text.ClassTable

namespace SovdConfig

/-!
# Which records are logged

Main definitions:

* `LogDirective` — the most that is logged of some part of the program;
* `LogFilter` — directives, and a text that messages must contain;
* `LogFilter.ofSpec` — the filter that a specification asks for;
* `LogFilter.accepts` — whether a record is logged.

A part of the program is named by the start of its target.  The longest name that fits decides.
-/

/-- The most that is logged of the targets that start with a name; without a level, nothing is. -/
structure LogDirective where
  /-- All targets, if there is no name. -/
  name : Option String
  level : Option LogLevel
deriving DecidableEq, Repr

namespace LogDirective

/-- Whether the directive is for a target. -/
def fits (d : LogDirective) (target : String) : Bool :=
  match d.name with
  | none => true
  | some name => name.toList.isPrefixOf target.toList

/-- How specific the directive is. -/
def weight (d : LogDirective) : Nat := (d.name.map String.utf8ByteSize).getD 0

/-- Whether a record of the level is logged. -/
def admits (d : LogDirective) (level : LogLevel) : Bool :=
  d.level.any fun most => level.rank ≤ most.rank

end LogDirective

/-- Which records are logged. -/
structure LogFilter where
  directives : List LogDirective := []
  /-- A text that must occur in the message, letter by letter: it is no regular expression. -/
  pattern : String := ""
deriving Repr

namespace LogFilter

/-- With a directive, in place of the one for the same name. -/
def add (f : LogFilter) (d : LogDirective) : LogFilter :=
  let replace (old : LogDirective) : LogDirective := if old.name = d.name then d else old
  { f with
    directives :=
      if f.directives.any (·.name = d.name) then f.directives.map replace
      else f.directives ++ [d] }

/-! ### Specifications -/

/-- The level of a word in any letter case; `off` is none. -/
def level? (word : String) : Option (Option LogLevel) :=
  let lower := String.ofList (word.toList.map Char.toLower)
  if lower = "off" then some none else (LogLevel.ofName? lower).map some

/-- A text without the blanks around it. -/
def trim (text : String) : String :=
  let isBlank (c : Char) : Bool := Text.CodeRange.covers Text.whiteSpaceRanges c.toNat
  String.ofList ((text.toList.dropWhile isBlank).reverse.dropWhile isBlank).reverse

/-- What is wrong with a specification. -/
inductive SpecFault
  | invalid (item : String)
  | tooManySlashes (spec : String)
deriving DecidableEq, Repr

/-- The line that warns of a fault. -/
def SpecFault.warning (e : SpecFault) : String :=
  let what := match e with
    | invalid item => "'" ++ item ++ "'"
    | tooManySlashes spec => "'" ++ spec ++ "' (too many '/'s)"
  "warning: invalid logging spec " ++ what ++ ", ignoring it\n"

/-- The directive of one item of a specification. -/
def directiveOf (item : String) : Except SpecFault LogDirective :=
  match item.splitOn "=" with
  | [word] =>
    match level? word with
    | some level => .ok ⟨none, level⟩
    -- a word that is no level names a part of the program, of which all is logged
    | none => .ok ⟨some word, some .trace⟩
  | [name, word] =>
    if trim word = "" then .ok ⟨some name, some .trace⟩
    else
      match level? (trim word) with
      | some level => .ok ⟨some name, level⟩
      | none => .error (.invalid (trim word))
  | _ => .error (.invalid item)

/-- A filter and the faults so far, with one more item of a specification. -/
def addItem (state : LogFilter × List SpecFault) (item : String) : LogFilter × List SpecFault :=
  if item = "" then state
  else
    match directiveOf item with
    | .ok d => (state.1.add d, state.2)
    | .error fault => (state.1, state.2 ++ [fault])

/-- The filter that a specification asks for, and what is wrong with it.  Directives have commas
    between them; after a slash comes the text that messages must contain. -/
def ofSpec (spec : String) : LogFilter × List SpecFault :=
  let items (text : String) : LogFilter × List SpecFault :=
    ((text.splitOn ",").map trim).foldl addItem ({}, [])
  match spec.splitOn "/" with
  | [directives] => items directives
  | [directives, pattern] =>
    let (f, faults) := items directives
    ({ f with pattern }, faults)
  | _ => ({}, [.tooManySlashes spec])

/-! ### Records -/

/-- Whether the characters occur somewhere in the text. -/
def occursIn (pattern : List Char) : List Char → Bool
  | [] => pattern.isEmpty
  | c :: rest => pattern.isPrefixOf (c :: rest) || occursIn pattern rest

/-- The directive that decides about a target: of those that fit, the last of the longest. -/
def deciding? (f : LogFilter) (target : String) : Option LogDirective :=
  let heavier (best : Option LogDirective) (d : LogDirective) : Option LogDirective :=
    if best.any fun b => d.weight < b.weight then best else some d
  (f.directives.filter (·.fits target)).foldl heavier none

/-- Whether a record is logged. -/
def accepts (f : LogFilter) (r : LogRecord) : Bool :=
  (f.deciding? r.target).any (·.admits r.level) &&
    occursIn f.pattern.toList r.message.toList

end LogFilter

end SovdConfig
