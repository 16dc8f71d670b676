import SovdConfig.Disk.Interface
import SovdConfig.Layer.Decoder
import SovdConfig.Layer.Variables
import SovdConfig.Log.Record
import SovdConfig.Path.Expansion
import SovdConfig.Toml.Reader

namespace SovdConfig

/-!
# Loading settings

Main definitions:

* `Settings.ofSources` — defaults, what a file says, what variables say, laid over each other;
* `Settings.sourceFile?` — the file that is read for a path;
* `Settings.loadFrom`, `Settings.load` — the settings of a configuration file.

A file that does not exist or cannot be read says nothing.
-/

/-- Why there are no settings. -/
inductive LoadFault
  /-- The file is no TOML. -/
  | malformed
  | layer (fault : LayerFault)
  | expansion (fault : ExpansionFault)
deriving DecidableEq, Repr

/-- The fault and its causes, outermost first.  Of a file that is no TOML only that is said, not
    where and why reading it fails. -/
def LoadFault.chain : LoadFault → List String
  | malformed => ["TOML parse error"]
  | layer fault => [fault.message]
  | expansion fault => fault.chain

namespace Settings

/-- What is known before any source is asked. -/
def knownDefaults : Datum :=
  Datum.addSource (.table none [])
    [("logging.level", .scalar none (.text LogLevel.warn.name)),
     ("generator.interface", .scalar none (.text defaultInterface))]

/-- The settings with the path of the log file expanded. -/
def expandLogFile (env : Environment) (s : Settings) : Except LoadFault Settings :=
  match s.logging.file with
  | none => .ok s
  | some file =>
    match Expansion.expandText env file with
    | .ok file => .ok { s with logging.file := some file }
    | .error e => .error (.expansion e)

/-- The settings that follow from what the file says, if there is one, and from the variables. -/
def ofSources (env : Environment) (file : Option (List (String × Datum))) :
    Except LoadFault Settings := do
  let known := Datum.addSource knownDefaults (file.getD [])
  let overrides ← (Variables.source env).mapError .layer
  let settings ← (Datum.addSource known overrides).toSettings.mapError .layer
  expandLogFile env settings

/-- The bytes that may stand at the start of an encoded file. -/
def byteOrderMark : Bytes := [0xEF, 0xBB, 0xBF]

/-- The text of a file; what is no text in it is replaced. -/
def fileText (content : Bytes) : String :=
  Text.decodeLossy (if byteOrderMark.isPrefixOf content then content.drop 3 else content)

/-- What the content of a file says. -/
def fileSource (origin : String) (content : Bytes) :
    Except LoadFault (List (String × Datum)) :=
  match Toml.read? (fileText content) with
  | some members => .ok (Datum.ofTomlMembers origin members)
  | none => .error .malformed

variable {m : Type → Type} [Monad m] [Disk m]

/-- The file that is read for a path: the one at the path itself, or else the one whose name has
    `.toml` appended. -/
def sourceFile? (path : Path) : m (Option Path) := do
  let here ← Disk.currentDirectory
  let whole := here.join path
  if ← Disk.isFile whole then return some whole
  else
    match whole.extendName? (Text.encodeUtf8 ".toml") with
    | none => return none
    | some extended => if ← Disk.isFile extended then return some extended else return none

/-- The settings of a path and an environment. -/
def loadFrom (env : Environment) (path : Path) : m (Except LoadFault Settings) := do
  match ← sourceFile? path with
  | none => return ofSources env none
  | some file =>
    let here ← Disk.currentDirectory
    match ← Disk.read file with
    | .error _ => return ofSources env none
    | .ok content =>
      return do
        let source ← fileSource (file.relativeTo here).display content
        ofSources env (some source)

/-- What is logged when settings are loaded: that there is no file. -/
def loadLog (path : Path) (isThere : Bool) : List LogRecord :=
  if isThere then []
  else
    [⟨.debug, "ecucfg_core::config", "no config file at " ++ path.display ++ ", using defaults"⟩]

/-- The settings of a configuration file, and what is logged on the way. -/
def load (env : Environment) (path : Path) : m (List LogRecord × Except LoadFault Settings) := do
  let isThere ← Disk.doesExist path
  let settings ← loadFrom env path
  return (loadLog path isThere, settings)

end Settings

end SovdConfig
