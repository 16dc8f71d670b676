import SovdConfig.Disk.Interface
import SovdConfig.Settings.Printer

namespace SovdConfig

/-!
# Writing the configuration file

Main definition:

* `Settings.writeDefault` — a file with the default settings, in a directory that is made if it is
  missing.
-/

/-- Why the file cannot be written. -/
inductive WriteFault
  | directory (path : Path) (cause : DiskFault)
  | file (path : Path) (cause : DiskFault)
deriving DecidableEq, Repr

/-- The fault and its cause. -/
def WriteFault.chain : WriteFault → List String
  | directory path cause => ["creating config directory " ++ path.display, cause.message]
  | file path cause => ["writing config file to " ++ path.display, cause.message]

/-- The bytes of the file that is written to a path. -/
def Settings.defaultBytes (path : Path) : Bytes :=
  Text.encodeUtf8 (defaultFile path.display)

/-- A file with the default settings. -/
def Settings.writeDefault {m : Type → Type} [Monad m] [Disk m] (path : Path) :
    m (Except WriteFault Unit) := do
  let write : m (Except WriteFault Unit) := do
    return (← Disk.write path (defaultBytes path)).mapError (.file path)
  match path.parent? with
  | none => write
  | some parent =>
    match ← Disk.createDirectories parent with
    | .error e => return .error (.directory parent e)
    | .ok () => write

end SovdConfig
