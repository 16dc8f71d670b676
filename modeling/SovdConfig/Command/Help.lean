import SovdConfig.Command.Argument

namespace SovdConfig

/-!
# Help texts

Main definitions:

* `Command.help` — the help of a command, in short or in full;
* `Command.versionText` — the line that names the version.

In short, an argument takes one line, in a table of two columns.  In full, what is said of an
argument comes below it, and the values of a choice are listed.
-/

namespace Command

/-- The version of the program. -/
def version : String := "0.2.4"

/-- Blanks. -/
def blanks (n : Nat) : String := String.ofList (List.replicate n ' ')

/-- A text with blanks behind it, up to a width. -/
def padRight (width : Nat) (text : String) : String := text ++ blanks (width - text.length)

/-- What precedes the lines that say something of an argument. -/
def indent : String := blanks 10

/-- Whether something is said of the values of a choice. -/
def isExplained (o : Operand) : Bool := o.choices.any (·.about ≠ "")

/-- What is said of an argument, in short or in full. -/
def aboutText (inFull : Bool) (a : Argument) : String :=
  match a.operand with
  | .help => if inFull then "Print help (see a summary with '-h')"
    else "Print help (see more with '--help')"
  | .version => "Print version"
  | _ => a.about

/-- The value that counts if none is given. -/
def defaultNote : Operand → List String
  | .choice _ _ (some value) => ["[default: " ++ value ++ "]"]
  | _ => []

/-- The values of a choice. -/
def choicesNote (o : Operand) : List String :=
  if o.choices.isEmpty then []
  else ["[possible values: " ++ ", ".intercalate (o.choices.map Choice.name) ++ "]"]

/-- An argument as it is written: its short name, its long name and its value. -/
def spelling (a : Argument) : String :=
  match a.long, a.short with
  | none, _ => a.title
  | some _, some c => String.ofList ['-', c, ',', ' '] ++ a.title
  | some _, none => blanks 4 ++ a.title

/-- The greatest length among texts. -/
def widest (texts : List String) : Nat := (texts.map String.length).foldl max 0

/-- Two columns. -/
def table (rows : List (String × String)) : List String :=
  let width := widest (rows.map Prod.fst)
  rows.map fun (left, right) => blanks 2 ++ padRight width left ++ blanks 2 ++ right

/-- An argument on one line. -/
def shortRow (a : Argument) : String × String :=
  let said := if aboutText false a = "" then [] else [aboutText false a]
  (spelling a, " ".intercalate (said ++ defaultNote a.operand ++ choicesNote a.operand))

/-- The values of a choice, one on a line. -/
def choiceLines (o : Operand) : List String :=
  let width := widest (o.choices.map Choice.name)
  "Possible values:" :: o.choices.map fun c =>
    "- " ++ padRight (width + 1) (c.name ++ ":") ++ " " ++ c.about

/-- What is said of an argument in full: paragraphs of lines. -/
def paragraphs (a : Argument) : List (List String) :=
  let said := if aboutText true a = "" then [] else [[aboutText true a]]
  if isExplained a.operand then
    said ++ [choiceLines a.operand] ++ (defaultNote a.operand).map fun note => [note]
  else said ++ [defaultNote a.operand ++ choicesNote a.operand].filter (· ≠ [])

/-- The lines of paragraphs.  The empty line after a list of values is indented too. -/
def paragraphLines : List (List String) → List String
  | [] => []
  | [lines] => lines.map (indent ++ ·)
  | lines :: rest =>
    lines.map (indent ++ ·) ++ (if lines.length = 1 then "" else indent) :: paragraphLines rest

/-- An argument and what is said of it below. -/
def fullLines (a : Argument) : List String :=
  (blanks 2 ++ spelling a) :: paragraphLines (paragraphs a)

/-- Arguments under a heading. -/
def argumentSection (inFull : Bool) (heading : String) (arguments : List Argument) :
    List (List String) :=
  if arguments.isEmpty then []
  else if inFull then [heading :: [""].intercalate (arguments.map fullLines)]
  else [heading :: table (arguments.map shortRow)]

/-- How the command is used. -/
def usage (path : List Command) (c : Command) : String :=
  let options := if c.options.isEmpty then "" else " [OPTIONS]"
  let operand := (c.operand.map fun a => " " ++ a.title).getD ""
  let below :=
    if c.subcommands.isEmpty then ""
    else if c.needsSubcommand then " <COMMAND>"
    else " [COMMAND]"
  "Usage: " ++ names path " " ++ options ++ operand ++ below

/-- The sections of the help, with an empty line between them. -/
def helpSections (inFull : Bool) (path : List Command) (c : Command) : List (List String) :=
  let below :=
    if c.subcommands.isEmpty then []
    else ["Commands:" :: table (c.subcommands.map fun s => (s.name, s.about))]
  [[c.about], [usage path c]] ++ below ++
    argumentSection inFull "Arguments:" c.operand.toList ++
    argumentSection inFull "Options:" c.options ++
    if c.closing.isEmpty then [] else [c.closing]

/-- The help of the last command of a path.  It is given in full only where that says more. -/
def help (inFull : Bool) (path : List Command) : String :=
  match path.getLast? with
  | none => ""
  | some c =>
    let saysMore := (c.operand.toList ++ c.options).any fun a => isExplained a.operand
    let lines := [""].intercalate (helpSections (inFull && saysMore) path c)
    String.join (lines.map (· ++ "\n"))

/-- The line that names the version of the last command of a path. -/
def versionText (path : List Command) : String := names path "-" ++ " " ++ version ++ "\n"

end Command

end SovdConfig
