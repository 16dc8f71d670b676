import SovdConfig.Path

namespace SovdConfig

/-!
# Commands and their arguments

Main definitions:

* `Argument` — an option of a command, or its operand;
* `Argument.title` — how messages name an argument;
* `Command` — a command, its arguments and its subcommands.
-/

/-- One of the values that an argument may have. -/
structure Choice where
  name : String
  about : String := ""
deriving DecidableEq, Repr

/-- What is given with an argument. -/
inductive Operand
  /-- Nothing: the argument is there or not. -/
  | nothing
  /-- Nothing, but the argument may be repeated. -/
  | tally
  | text (label : String)
  | path (label : String)
  | choice (label : String) (choices : List Choice) (default : Option String)
  /-- Any number of words. -/
  | words (label : String)
  /-- Nothing: help is asked for. -/
  | help
  /-- Nothing: the version is asked for. -/
  | version
deriving DecidableEq, Repr

namespace Operand

/-- What stands for the value in messages, if there is one. -/
def label? : Operand → Option String
  | text label | path label | choice label .. | words label => some label
  | nothing | tally | help | version => none

/-- The values among which a choice is made. -/
def choices : Operand → List Choice
  | choice _ choices _ => choices
  | _ => []

end Operand

/-- An option, or an operand if it has no name.  Names come without their hyphens. -/
structure Argument where
  long : Option String := none
  short : Option Char := none
  operand : Operand := .nothing
  about : String := ""
  /-- Options that may not be given together with this one. -/
  excludes : List String := []
  /-- Options without which this one may not be given. -/
  requires : List String := []
deriving DecidableEq, Repr

namespace Argument

/-- Whether a value belongs to the argument. -/
def takesValue (a : Argument) : Bool := a.operand.label?.isSome

/-- The key under which the value of the argument is kept. -/
def key (a : Argument) : String := a.long.getD (a.operand.label?.getD "")

/-- How an operand is named. -/
def operandTitle : Operand → String
  | .words label => "[" ++ label ++ "]..."
  | operand => "<" ++ operand.label?.getD "" ++ ">"

/-- How messages name the argument: an option by its long name and its value. -/
def title (a : Argument) : String :=
  match a.long with
  | none => operandTitle a.operand
  | some name =>
    "--" ++ name ++
      match a.operand with
      | .tally => "..."
      | operand => if a.takesValue then " " ++ operandTitle operand else ""

end Argument

/-- A command. -/
structure Command where
  name : String
  about : String
  options : List Argument := []
  operand : Option Argument := none
  subcommands : List Command := []
  /-- Whether one of the subcommands must be given. -/
  needsSubcommand : Bool := false
  /-- Lines at the end of the help. -/
  closing : List String := []

namespace Command

/-- The subcommand of a name. -/
def subcommand? (c : Command) (name : Bytes) : Option Command :=
  c.subcommands.find? fun s => Text.encodeUtf8 s.name == name

/-- The option of a long name. -/
def longOption? (c : Command) (name : String) : Option Argument :=
  c.options.find? (·.long == some name)

/-- The option of a short name. -/
def shortOption? (c : Command) (name : Char) : Option Argument :=
  c.options.find? (·.short == some name)

/-- The names of nested commands, outermost first. -/
def names (path : List Command) (separator : String) : String :=
  separator.intercalate (path.map Command.name)

end Command

end SovdConfig
