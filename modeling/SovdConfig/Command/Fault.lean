import SovdConfig.Command.Argument

namespace SovdConfig

/-!
# Faults of command lines

Main definitions:

* `LineFault` — why a command line cannot be understood;
* `LineFault.message` — the words for it.
-/

/-- Why a command line cannot be understood.  Arguments come with their titles. -/
inductive LineFault
  | unknownArgument (text : String)
  | unknownSubcommand (name : String)
  | needlessValue (value argument : String)
  | missingValue (argument : String)
  | invalidValue (value argument : String)
  /-- A value that must be text is none. -/
  | notText
  | repeated (argument : String)
  | excluded (argument other : String)
  | missingArguments (arguments : List String)
  | missingSubcommand (command : String)
deriving DecidableEq, Repr

namespace LineFault

/-- A text between single quotes. -/
def marked (text : String) : String := "'" ++ text ++ "'"

/-- The words for a fault. -/
def message : LineFault → String
  | unknownArgument text => "unexpected argument " ++ marked text ++ " found"
  | unknownSubcommand name => "unrecognized subcommand " ++ marked name
  | needlessValue value argument =>
    "unexpected value " ++ marked value ++ " for " ++ marked argument ++
      " found; no more were expected"
  | missingValue argument =>
    "a value is required for " ++ marked argument ++ " but none was supplied"
  | invalidValue value argument => "invalid value " ++ marked value ++ " for " ++ marked argument
  | notText => "invalid UTF-8 was detected in one or more arguments"
  | repeated argument => "the argument " ++ marked argument ++ " cannot be used multiple times"
  | excluded argument other =>
    "the argument " ++ marked argument ++ " cannot be used with " ++ marked other
  | missingArguments arguments =>
    "the following required arguments were not provided:" ++
      String.join (arguments.map fun a => "\n  " ++ a)
  | missingSubcommand command =>
    marked command ++ " requires a subcommand but one was not provided"

/-- What is shown to the user. -/
def text (e : LineFault) : String :=
  "error: " ++ e.message ++ "\n\nFor more information, try '--help'.\n"

end LineFault

end SovdConfig
