import SovdConfig.Discovery
import SovdConfig.Disk.Interface

namespace SovdConfig

/-!
# Discovery results in files

Main definition:

* `Discovery.load` — the result of a scan that is kept in a file.
-/

/-- Why a file gives no configurations. -/
inductive DiscoveryFault
  | notFound (path : Path)
  | unreadable (cause : DiskFault)
  | malformed (path : Path) (cause : Json.TextError)
deriving DecidableEq, Repr

namespace DiscoveryFault

/-- The words for a fault. -/
def message : DiscoveryFault → String
  | notFound path => "discovery file not found: " ++ path.display
  | unreadable cause => "IO error: " ++ cause.message
  | malformed path cause =>
    "malformed discovery document " ++ path.display ++ ": " ++ cause.message

/-- The fault and its causes, outermost first. -/
def chain (e : DiscoveryFault) : List String :=
  e.message ::
    match e with
    | notFound _ => []
    | unreadable cause => [cause.message]
    | malformed _ cause => [cause.message]

end DiscoveryFault

namespace Discovery

/-- The text of a file's content. -/
def textOf (content : Bytes) : Except DiscoveryFault String :=
  match Text.decodeUtf8? content with
  | some text => .ok text
  | none => .error (.unreadable .notText)

/-- The result that the content of a file holds. -/
def ofFile (path : Path) : Except DiskFault Bytes → Except DiscoveryFault Discovery
  | .error .notFound => .error (.notFound path)
  | .error e => .error (.unreadable e)
  | .ok content => do
    let text ← textOf content
    (ofJson text).mapError (.malformed path)

/-- What is logged when a file has been read: how many units it has. -/
def fileLog (path : Path) (d : Discovery) : LogRecord :=
  ⟨.info, "ecucfg_core::discovery",
    "transforming " ++ decimalText d.selected.length ++ " discovered unit(s) from " ++
      path.display⟩

/-- The result in a file. -/
def load {m : Type → Type} [Monad m] [Disk m] (path : Path) :
    m (Except DiscoveryFault Discovery) := do
  return ofFile path (← Disk.read path)

end Discovery

end SovdConfig
