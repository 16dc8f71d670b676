import SovdConfig.Command.Completion
import SovdConfig.Command.Generate
import SovdConfig.Command.Help
import SovdConfig.Settings.Schema

namespace SovdConfig

/-!
# Running the program

Main definitions:

* `Setup` — what a run starts from: settings and a logger;
* `Invocation.prepare` — the setup of a run;
* `Invocation.perform` — what is asked for is done;
* `Program.run` — the program: a command line in, an exit code out.

The settings are loaded and the log is opened before anything is done, whatever is asked for.
-/

/-- How a run ends. -/
inductive ExitCode
  | success
  | failure
  /-- The command line cannot be understood. -/
  | misuse
deriving DecidableEq, Repr

/-- The number of an exit code. -/
def ExitCode.toNat : ExitCode → Nat
  | success => 0
  | failure => 1
  | misuse => 2

/-- What a run starts from: the path of the configuration file, the settings, and a logger unless
    the run is quiet. -/
structure Setup where
  path : Path
  settings : Settings
  logger : Option Logger

variable {m : Type → Type} [Monad m] [Disk m] [Console m]

/-! ### Setup -/

/-- The level up to which records are logged. -/
def CommonOptions.logLevel (o : CommonOptions) (configured : LogLevel) : LogLevel :=
  if o.trace then .trace
  else if o.debug then .debug
  else
    match o.verbosity with
    | 0 => configured
    | 1 => .info
    | 2 => .debug
    | _ => .trace

/-- Whether log lines are in color.  A request against color counts before a request for it; without
    either, a terminal has color. -/
def CommonOptions.isColored (o : CommonOptions) (env : Environment) (terminal : Bool) : Bool :=
  let wanted := o.color = "always" || env.isSet "FORCE_COLOR" || terminal
  let unwanted := o.noColor || o.color = "never" || env.isSet "NO_COLOR"
  wanted && !unwanted

/-- The logger for the settings.  A log file is made if it is missing. -/
def CommonOptions.openLogger (o : CommonOptions) (env : Environment) (terminal : Bool)
    (settings : LoggingSettings) : m (Except Failure (Option Logger)) := do
  if o.quiet then return .ok none
  else
    let (filter, faults) := Logger.filterFor env (o.logLevel settings.level)
    if !faults.isEmpty then
      Console.printError (String.join (faults.map LogFilter.SpecFault.warning))
    match settings.file with
    | none => return .ok (some ⟨filter, .errors (o.isColored env terminal)⟩)
    | some file =>
      -- nothing is appended, but this makes the file or shows that it cannot be opened
      match ← Disk.append (.ofText file) [] with
      | .ok () => return .ok (some ⟨filter, .file (.ofText file)⟩)
      | .error e => return .error (.logFile file e)

namespace Invocation

/-- The setup of a run. -/
def prepare (i : Invocation) (env : Environment) (terminal : Bool) : m (Except Failure Setup) := do
  match ← ConfigLocation.locate (m := m) env i.common.config with
  | .error e => return .error (.location e)
  | .ok path =>
    let (_, result) ← Settings.load (m := m) env path
    match result with
    | .error e => return .error (.loading path e)
    | .ok settings =>
      match ← i.common.openLogger env terminal settings.logging with
      | .error e => return .error e
      | .ok logger => return .ok ⟨path, settings, logger⟩

end Invocation

/-! ### Tasks -/

namespace Setup

/-- A record of the program itself is logged. -/
def log (s : Setup) (level : LogLevel) (message : String) : m Unit :=
  Logger.log s.logger (programRecord level message)

/-- What would be written is logged. -/
def logDryRun (s : Setup) (what : String) (path : Path) : m Unit :=
  s.log .info ("dry-run: would write " ++ what ++ " to " ++ path.display)

/-- The documents go to files, or are only said to. -/
def writeDocuments (s : Setup) (o : CommonOptions) (d : Documents) (path : Path) :
    m (Except Failure Unit) := do
  if o.dryRun then
    s.logDryRun "config" path
    if d.definitions.isSome then s.logDryRun "DIDs" path.definitions
    return .ok ()
  else d.write o.quiet path

/-- Documents are generated. -/
def generate (s : Setup) (o : CommonOptions) (g : GenerateOptions) :
    m (Except Failure ExitCode) := do
  match ← g.mode.configuration s.logger s.settings.generator with
  | .error e => return .error e
  | .ok none => do
    -- not enough is given to generate anything
    Console.printError (Command.help false [Program.command])
    return .ok .failure
  | .ok (some configuration) =>
    let d : Documents := ⟨configuration, g.definitions⟩
    match g.output with
    | none => do
      d.print
      return .ok .success
    | some path => return (← s.writeDocuments o d path).map fun () => .success

/-- The configuration file is written, unless it is there and is not to be replaced. -/
def createSettings (s : Setup) (o : CommonOptions) (force : Bool) : m (Except Failure Unit) := do
  let isThere ← Disk.doesExist s.path
  -- a file that is there is refused in a dry run, too
  if isThere && !force then return .error (.settingsExist s.path)
  else if o.dryRun then do
    s.logDryRun "default config" s.path
    return .ok ()
  else
    match ← Settings.writeDefault (m := m) s.path with
    | .error e => return .error (.creating e)
    | .ok () => do
      if !o.quiet then Console.printError (OutputFile.notice "Config" s.path)
      return .ok ()

/-- A text is shown. -/
def display (text : String) : m (Except Failure ExitCode) := do
  Console.print text
  return .ok .success

end Setup

/-- Where the schema of the configuration file is published. -/
def projectAddress : String := "https://github.com/byteowlz/ecucfg"

namespace Invocation

/-- What is asked for is done. -/
def perform (i : Invocation) (s : Setup) : m (Except Failure ExitCode) := do
  s.log .debug ("resolved paths: config: " ++ s.path.display)
  match i.task with
  | .generate g => s.generate i.common g
  | .showSettings => Setup.display (Json.print s.settings.toJson ++ "\n")
  | .showPath => Setup.display (s.path.display ++ "\n")
  | .showSchema => Setup.display (Schema.text appName projectAddress ++ "\n")
  | .createSettings force => return (← s.createSettings i.common force).map fun () => .success
  | .complete shell => Setup.display (Completion.script shell)

/-- What is asked for is done, with a setup of its own. -/
def execute (i : Invocation) (env : Environment) (terminal : Bool) :
    m (Except Failure ExitCode) := do
  match ← i.prepare env terminal with
  | .error e => return .error e
  | .ok s => i.perform s

end Invocation

/-! ### The program -/

namespace Program

/-- What is shown where there is nothing to run. -/
def explain : CommandLine.Stop → m ExitCode
  | .help inFull path => do
    Console.print (Command.help inFull path)
    return .success
  | .version path => do
    Console.print (Command.versionText path)
    return .success
  | .bare path => do
    Console.printError (Command.help false path)
    return .misuse
  | .fault e => do
    Console.printError e.text
    return .misuse

/-- The program: the words of a command line in, an exit code out. -/
def run (env : Environment) (terminal : Bool) (words : List Bytes) : m ExitCode := do
  match Invocation.ofWords words with
  | .error stop => explain stop
  | .ok i =>
    match ← i.execute env terminal with
    | .ok code => return code
    | .error e => do
      Console.printError e.report
      return .failure

end Program

end SovdConfig
