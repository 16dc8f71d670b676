import SovdConfig.Command.Line
import SovdConfig.Ecu

namespace SovdConfig

/-!
# The commands of the program

Main definitions:

* `Program.command` — the program with its options and subcommands;
* `Invocation` — what a command line asks for;
* `Invocation.ofWords` — what a command line asks for, or why that is not clear.
-/

namespace Program

/-- An option that is there or not. -/
def switch (long : String) (short : Option Char) (about : String) : Argument :=
  { long := some long, short, about }

/-- An option with a text. -/
def textOption (long : String) (short : Char) (label about : String) : Argument :=
  { long := some long, short := some short, operand := .text label, about }

/-- The option for the path of the configuration file. -/
def configOption : Argument :=
  { long := some "config", operand := .path "PATH", about := "Override the config file path" }

/-- The ways to use color. -/
def colorChoices : List Choice :=
  [⟨"auto", "Detect terminal capabilities automatically"⟩,
   ⟨"always", "Always emit ANSI color codes"⟩,
   ⟨"never", "Never emit ANSI color codes"⟩]

/-- The options that every command has, except the first of them. -/
def commonOptions : List Argument :=
  [switch "quiet" 'q' "Reduce output to only errors",
   { long := some "verbose", short := some 'v', operand := .tally
     about := "Increase logging verbosity (stackable)" },
   switch "debug" none "Enable debug logging",
   switch "trace" none "Enable trace logging",
   { long := some "no-color", about := "Disable ANSI colors in output", excludes := ["color"] },
   { long := some "color", operand := .choice "COLOR" colorChoices (some "auto")
     about := "Control color output" },
   switch "dry-run" none "Do not change anything on disk"]

/-- The ways to reach a unit. -/
def transportChoices : List Choice :=
  [⟨TransportKind.isotp.name, "ISO-TP over CAN"⟩, ⟨TransportKind.doip.name, "Diagnostics over IP"⟩]

/-- The options for what is generated. -/
def generateOptions : List Argument :=
  [textOption "name" 'n' "NAME" "ECU name",
   textOption "id" 'i' "ID" "ECU ID (default: derived from name)",
   textOption "tx-id" 't' "ID" "TX CAN ID (tester -> ECU)",
   textOption "rx-id" 'r' "ID" "RX CAN ID (ECU -> tester)",
   textOption "interface" 'I' "INTERFACE"
     ("CAN interface, or DoIP gateway host [default: " ++ defaultInterface ++ "]"),
   { long := some "transport"
     operand := .choice "TRANSPORT" transportChoices (some TransportKind.isotp.name)
     about := "Transport protocol" },
   { long := some "from-discovery", short := some 'd', operand := .path "PATH"
     about := "Generate from discovery JSON" },
   switch "dids" none "Also generate DID YAML",
   { long := some "no-did-examples"
     about := "Leave the commented example DIDs out of the DID YAML", requires := ["dids"] },
   { long := some "output", short := some 'o', operand := .path "PATH"
     about := "Output file (default: stdout)" }]

/-- The options that end every list. -/
def lastOptions : List Argument :=
  [{ long := some "help", short := some 'h', operand := .help },
   { long := some "version", short := some 'V', operand := .version }]

/-- The options of a command without its own. -/
def sharedOptions : List Argument := configOption :: commonOptions ++ lastOptions

/-- The command that shows the help of others. -/
def helpCommand : Command where
  name := CommandLine.helpName
  about := "Print this message or the help of the given subcommand(s)"
  operand := some { operand := .words "COMMAND", about := "Print help for the subcommand(s)" }

/-- The command for the configuration file. -/
def configCommand : Command where
  name := "config"
  about := "Inspect and manage configuration"
  options := sharedOptions
  needsSubcommand := true
  subcommands :=
    [{ name := "show", about := "Output the effective configuration as JSON"
       options := sharedOptions },
     { name := "path", about := "Print the resolved config file path", options := sharedOptions },
     { name := "schema", about := "Print the JSON schema", options := sharedOptions },
     { name := "init", about := "Write the default configuration file"
       options :=
         [configOption, switch "force" none "Recreate configuration even if it already exists"] ++
           commonOptions ++ lastOptions },
     helpCommand]

/-- The shells that can complete command lines. -/
def shells : List Choice :=
  ["bash", "elvish", "fish", "powershell", "zsh"].map fun name => { name }

/-- The command for the completion of command lines. -/
def completionsCommand : Command where
  name := "completions"
  about := "Generate shell completions"
  options := sharedOptions
  operand := some { operand := .choice "SHELL" shells none }

/-- The program. -/
def command : Command where
  name := appName
  about := "Generate SOVD ECU configuration from parameters or discovery results"
  options := configOption :: commonOptions ++ generateOptions ++ lastOptions
  subcommands := [configCommand, completionsCommand, helpCommand]
  closing :=
    ["Examples:",
     "  ecucfg --name engine_ecu --tx-id 0x7E0 --rx-id 0x7E8",
     "  ecucfg --from-discovery discovery.json"]

end Program

/-! ### Invocations -/

/-- The options that every command has. -/
structure CommonOptions where
  config : Option Path := none
  quiet : Bool := false
  verbosity : Nat := 0
  debug : Bool := false
  trace : Bool := false
  noColor : Bool := false
  /-- The word for the way to use color. -/
  color : String := "auto"
  dryRun : Bool := false
deriving DecidableEq, Repr

/-- What is to be generated, as it is given. -/
structure GenerateOptions where
  name : Option String := none
  id : Option String := none
  txId : Option String := none
  rxId : Option String := none
  interface : Option String := none
  transport : TransportKind := .isotp
  fromDiscovery : Option Path := none
  dids : Bool := false
  noDidExamples : Bool := false
  output : Option Path := none
deriving DecidableEq, Repr

/-- What is to be done. -/
inductive Task
  | generate (options : GenerateOptions)
  | showSettings
  | showPath
  | showSchema
  | createSettings (force : Bool)
  | complete (shell : String)
deriving DecidableEq, Repr

/-- What a command line asks for. -/
structure Invocation where
  common : CommonOptions := {}
  task : Task
deriving DecidableEq, Repr

namespace Invocation

open CommandLine (Arguments)

/-- Whether an option was given. -/
def isGiven (given : Arguments) (key : String) : Bool := (given.lookup key).isSome

/-- The text that was given for an option. -/
def textOf (given : Arguments) (key : String) : Option String :=
  match given.lookup key with
  | some (.text s) => some s
  | _ => none

/-- The path that was given for an option. -/
def pathOf (given : Arguments) (key : String) : Option Path :=
  match given.lookup key with
  | some (.path p) => some p
  | _ => none

/-- How often an option was given. -/
def timesOf (given : Arguments) (key : String) : Nat :=
  match given.lookup key with
  | some (.times n) => n
  | _ => 0

/-- The options that every command has.  Where one is given to several commands, the innermost
    counts; so they come innermost first. -/
def commonOf (given : Arguments) : CommonOptions where
  config := pathOf given "config"
  quiet := isGiven given "quiet"
  verbosity := timesOf given "verbose"
  debug := isGiven given "debug"
  trace := isGiven given "trace"
  noColor := isGiven given "no-color"
  color := (textOf given "color").getD "auto"
  dryRun := isGiven given "dry-run"

/-- What is to be generated. -/
def generateOf (given : Arguments) : GenerateOptions where
  name := textOf given "name"
  id := textOf given "id"
  txId := textOf given "tx-id"
  rxId := textOf given "rx-id"
  interface := textOf given "interface"
  transport := ((textOf given "transport").bind TransportKind.ofName?).getD .isotp
  fromDiscovery := pathOf given "from-discovery"
  dids := isGiven given "dids"
  noDidExamples := isGiven given "no-did-examples"
  output := pathOf given "output"

/-- What is to be done, from what was given to the program and to each subcommand. -/
def taskOf : List (String × Arguments) → Task
  | [_, ("config", _), ("show", _)] => .showSettings
  | [_, ("config", _), ("path", _)] => .showPath
  | [_, ("config", _), ("schema", _)] => .showSchema
  | [_, ("config", _), ("init", given)] => .createSettings (isGiven given "force")
  | [_, ("completions", given)] => .complete ((textOf given "SHELL").getD "")
  | levels => .generate (generateOf ((levels.head?.map Prod.snd).getD []))

/-- What a command line asks for. -/
def ofWords (words : List Bytes) : Except CommandLine.Stop Invocation := do
  let levels ← CommandLine.read Program.command words
  return { common := commonOf (levels.reverse.flatMap Prod.snd), task := taskOf levels }

end Invocation

end SovdConfig
