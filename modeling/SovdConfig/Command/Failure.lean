import SovdConfig.Discovery.File
import SovdConfig.Settings.File
import SovdConfig.Settings.Load
import SovdConfig.Settings.Location

namespace SovdConfig

/-!
# Failures

Main definitions:

* `Failure` — why a run fails;
* `Failure.chain` — the words for it, and for what caused it;
* `Failure.report` — what is shown to the user.
-/

/-- Why a run fails.  Outputs come with their names. -/
inductive Failure
  | location (cause : LocationFault)
  | loading (path : Path) (cause : LoadFault)
  | logFile (name : String) (cause : DiskFault)
  | discovery (cause : DiscoveryFault)
  | outputIsDirectory (name : String) (path : Path)
  /-- No temporary file can be made ready; its path is told unless its mode is at fault. -/
  | staging (name : String) (path : Path) (cause : DiskFault) (tried : Option Path)
  /-- The temporary file cannot take its place. -/
  | committing (name : String) (path : Path) (cause : DiskFault)
  | settingsExist (path : Path)
  | creating (cause : WriteFault)
deriving DecidableEq, Repr

namespace Failure

/-- The words for writing an output. -/
def writing (name : String) (path : Path) : String := "writing " ++ name ++ " to " ++ path.display

/-- The failure and its causes, outermost first. -/
def chain : Failure → List String
  | location cause => cause.chain
  | loading path cause => ("loading config from " ++ path.display) :: cause.chain
  | logFile name cause => ["opening log file " ++ name, cause.message]
  | discovery cause => cause.chain
  | outputIsDirectory name path => [writing name path ++ ": is a directory"]
  | staging name path cause tried =>
    [writing name path,
      match tried with
      | some tried => cause.message ++ " at path " ++ Text.quote tried.bytes
      | none => cause.message]
  | committing name path cause =>
    [writing name path, "failed to persist temporary file: " ++ cause.message, cause.message]
  | settingsExist path =>
    ["config already exists at " ++ path.display ++ " (use --force to overwrite)"]
  | creating cause => cause.chain

/-! ### Reports -/

/-- A text with something in front of its first line and indentation in front of the others. -/
def withHanging (first indentation text : String) : String :=
  first ++ ("\n" ++ indentation).intercalate (text.splitOn "\n")

/-- The number of a cause. -/
def numbered (index : Nat) (cause : String) : String :=
  let number := decimalText index
  let blanks (n : Nat) : String := String.ofList (List.replicate n ' ')
  withHanging (blanks (5 - number.length) ++ number ++ ": ") (blanks 7) cause

/-- The causes, each on lines of its own and numbered if there are several. -/
def causeLines : List String → List String
  | [] => []
  | [cause] => [withHanging "    " "    " cause]
  | causes => causes.zipIdx.map fun (cause, index) => numbered index cause

/-- A chain of causes as it is shown to the user. -/
def reportChain : List String → String
  | [] => ""
  | [outermost] => "Error: " ++ outermost ++ "\n"
  | outermost :: causes =>
    "Error: " ++ outermost ++ "\n\nCaused by:\n" ++ "\n".intercalate (causeLines causes) ++ "\n"

/-- What is shown to the user. -/
def report (e : Failure) : String := reportChain e.chain

end Failure

end SovdConfig
