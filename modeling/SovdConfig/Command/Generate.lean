import SovdConfig.Command.Output
import SovdConfig.Command.Program
import SovdConfig.Log.Logger

namespace SovdConfig

/-!
# Generating

Main definitions:

* `GenerateMode` — what a configuration is generated from;
* `GenerateOptions.mode` — what the options of a command line ask for;
* `GenerateMode.configuration` — the configuration that is generated.

An option with an empty value counts as not given, except for the interface.
-/

/-- What a configuration is generated from. -/
inductive GenerateMode
  /-- The result of a scan, in a file. -/
  | discovery (path : Path)
  /-- The parameters of one unit. -/
  | direct (identity : Identity) (interface : Option String) (transport : TransportKind)
  /-- Not enough is given. -/
  | usage
deriving DecidableEq, Repr

/-- A value, unless it is empty. -/
def nonEmptyText (value : Option String) : Option String := value.filter fun s => s ≠ ""

namespace GenerateOptions

/-- The identity that is given, if name and addresses are. -/
def identity? (o : GenerateOptions) : Option Identity := do
  let name ← nonEmptyText o.name
  let txId ← nonEmptyText o.txId
  let rxId ← nonEmptyText o.rxId
  return match nonEmptyText o.id with
    | some id => ⟨id, name, txId, rxId⟩
    | none => .ofName name txId rxId

/-- What the options ask for.  The result of a scan counts before parameters. -/
def mode (o : GenerateOptions) : GenerateMode :=
  match o.fromDiscovery.filter fun p => !p.isEmpty with
  | some path => .discovery path
  | none =>
    match o.identity? with
    | some identity => .direct identity o.interface o.transport
    | none => .usage

/-- The definitions that the options ask for. -/
def definitions (o : GenerateOptions) : Option String :=
  if o.dids then some (Definition.document !o.noDidExamples) else none

end GenerateOptions

/-- The target of the log records of the program itself. -/
def programTarget : String := appName

/-- A log record of the program itself. -/
def programRecord (level : LogLevel) (message : String) : LogRecord :=
  ⟨level, programTarget, message⟩

namespace GenerateMode

variable {m : Type → Type} [Monad m] [Disk m] [Console m]

/-- The configurations of the units in a file. -/
def ofDiscovery (logger : Option Logger) (settings : GeneratorSettings) (path : Path) :
    m (Except Failure String) := do
  Logger.log logger (programRecord .info ("generating from discovery result " ++ path.display))
  match ← Discovery.load (m := m) path with
  | .error e => return .error (.discovery e)
  | .ok d => do
    Logger.log logger (d.fileLog path)
    let clock ← Console.readings
    return .ok (d.document settings clock)

/-- What is logged when the configuration of one unit is generated. -/
def directRecord (identity : Identity) (interface : String) (kind : TransportKind) : LogRecord :=
  programRecord .info
    ("generating " ++ identity.name ++ " (" ++ identity.id ++ ") over " ++ kind.name ++ " on " ++
      interface)

/-- The configuration of one unit. -/
def ofParameters (logger : Option Logger) (settings : GeneratorSettings) (identity : Identity)
    (interface : Option String) (kind : TransportKind) : m (Except Failure String) := do
  let interface := interface.getD settings.interface
  Logger.log logger (directRecord identity interface kind)
  let clock ← Console.readings
  -- one unit takes one reading of the clock
  return .ok ((Ecu.ofKind identity interface (some kind) settings).document settings (clock 0))

/-- The configuration, or `none` if not enough is given. -/
def configuration (logger : Option Logger) (settings : GeneratorSettings) :
    GenerateMode → m (Except Failure (Option String))
  | discovery path => do return (← ofDiscovery logger settings path).map some
  | direct identity interface kind => do
    return (← ofParameters logger settings identity interface kind).map some
  | usage => return .ok none

end GenerateMode

end SovdConfig
