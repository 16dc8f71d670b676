import SovdConfig.Settings.Basic

namespace SovdConfig

/-!
# Log records

Main definitions:

* `LogRecord` — one thing that happened, its level and the part of the program it happened in;
* `LogRecord.summary` — a record on one line, without a time.
-/

/-- One thing that happened; the target names the part of the program. -/
structure LogRecord where
  level : LogLevel
  target : String
  message : String
deriving DecidableEq, Repr

/-- Level, target and message. -/
def LogRecord.summary (r : LogRecord) : String :=
  r.level.label ++ " " ++ r.target ++ ": " ++ r.message

end SovdConfig
