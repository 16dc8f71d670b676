import SovdConfig.Disk.Interface
import SovdConfig.Path.Expansion
import SovdConfig.Settings.Basic

namespace SovdConfig

/-!
# Where the configuration file is

Main definitions:

* `ConfigLocation.defaultDirectory?` — the directory of the tool's own configuration;
* `ConfigLocation.locate` — the path of the configuration file, given or by default.
-/

/-- Why there is no path of a configuration file. -/
inductive LocationFault
  | expansion (fault : ExpansionFault)
  | noDirectory
  /-- The path has no place in a directory. -/
  | noParent (path : Path)
deriving DecidableEq, Repr

/-- The fault and its causes, outermost first. -/
def LocationFault.chain : LocationFault → List String
  | expansion fault => fault.chain
  | noDirectory => ["unable to determine configuration directory"]
  | noParent path => ["invalid config file path: " ++ path.display]

namespace ConfigLocation

/-- The name of the configuration file. -/
def fileName : String := "config.toml"

/-- The directory for the tool's own configuration: below the user's directory for configuration if
    that is set, otherwise below the usual place in the home directory. -/
def defaultDirectory? (env : Environment) : Option Path :=
  match env.nonEmpty? "XDG_CONFIG_HOME" with
  | some directory => some ((Path.mk directory).join (.ofText appName))
  | none => env.home?.map fun home => (home.join (.ofText ".config")).join (.ofText appName)

/-- A path that has a place in a directory. -/
def checkParent (p : Path) : Except LocationFault Path :=
  if p.parent?.isNone then .error (.noParent p) else .ok p

/-- The path of the configuration file.  A given path is expanded; in a directory, the file has the
    usual name. -/
def locate {m : Type → Type} [Monad m] [Disk m] (env : Environment) (given : Option Path) :
    m (Except LocationFault Path) := do
  match given with
  | none =>
    match defaultDirectory? env with
    | some directory => return checkParent (directory.join (.ofText fileName))
    | none => return .error .noDirectory
  | some p =>
    match Expansion.expandPath env p with
    | .error e => return .error (.expansion e)
    | .ok p =>
      if ← Disk.isDirectory p then return checkParent (p.join (.ofText fileName))
      else return checkParent p

end ConfigLocation

end SovdConfig
