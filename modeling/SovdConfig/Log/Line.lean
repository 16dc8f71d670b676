import SovdConfig.Log.Record
import SovdConfig.Timestamp

namespace SovdConfig

/-!
# Lines of a log

Main definitions:

* `LogLevel.color` — the color of a level's name;
* `LogRecord.line` — a record as a line of a log, in color or not.
-/

/-- A text in a color of the terminal. -/
def inColor (code text : String) : String :=
  String.ofList ['\x1b', '['] ++ code ++ "m" ++ text ++ String.ofList ['\x1b', '[', '0', 'm']

/-- The color of what is less important. -/
def subduedColor : String := "90"

/-- The color of a level's name. -/
def LogLevel.color : LogLevel → String
  | error => "31"
  | warn => "33"
  | info => "32"
  | debug => "34"
  | trace => "36"

namespace LogRecord

/-- The name of the level with blanks behind it, so that all are equally long. -/
def paddedLabel (r : LogRecord) : String :=
  r.level.label ++ String.ofList (List.replicate (5 - r.level.label.length) ' ')

/-- The message; each further line of it is indented. -/
def indentedMessage (r : LogRecord) : String := "\n    ".intercalate (r.message.splitOn "\n")

/-- A record as a line of a log, with the time in UTC. -/
def line (colored : Bool) (time : Timestamp) (r : LogRecord) : String :=
  let paint (code text : String) : String := if colored then inColor code text else text
  paint subduedColor "[" ++ time.utcText ++ " " ++ paint r.level.color r.paddedLabel ++ " " ++
    r.target ++ paint subduedColor "]" ++ " " ++ r.indentedMessage ++ "\n"

end LogRecord

end SovdConfig
