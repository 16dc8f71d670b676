import SovdConfig.Console
import SovdConfig.Environment
import SovdConfig.Log.Filter
import SovdConfig.Log.Line

namespace SovdConfig

/-!
# Logging

Main definitions:

* `Logger` — which records go where;
* `Logger.log` — one record goes there, unless it is filtered out.
-/

/-- Where log lines go. -/
inductive LogSink
  | errors (colored : Bool)
  | file (path : Path)
deriving DecidableEq, Repr

/-- Which records go where. -/
structure Logger where
  filter : LogFilter
  sink : LogSink
deriving Repr

namespace Logger

variable {m : Type → Type} [Monad m] [Disk m] [Console m]

/-- The variable that asks for more or less logging of parts of the program. -/
def specVariable : String := "RUST_LOG"

/-- The filter for a level and what the environment asks for; for all else the level counts. -/
def filterFor (env : Environment) (level : LogLevel) : LogFilter × List LogFilter.SpecFault :=
  let spec := ((env.get? specVariable).bind Text.decodeUtf8?).getD ""
  let (filter, faults) := LogFilter.ofSpec spec
  (filter.add ⟨none, some level⟩, faults)

/-- A line goes to the sink.  That a line cannot be written stops nothing. -/
def writeLine (sink : LogSink) (line : String) : m Unit :=
  match sink with
  | .errors _ => Console.printError line
  | .file path => do
    let _ ← Disk.append path (Text.encodeUtf8 line)
    return ()

/-- A record is logged, unless there is no logger or the record is filtered out. -/
def log (logger : Option Logger) (r : LogRecord) : m Unit :=
  match logger with
  | none => pure ()
  | some l =>
    if l.filter.accepts r then do
      let time ← Console.now
      writeLine l.sink (r.line (l.sink == .errors true) time)
    else pure ()

end Logger

end SovdConfig
