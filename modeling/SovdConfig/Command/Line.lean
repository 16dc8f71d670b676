import SovdConfig.Command.Fault

namespace SovdConfig

/-!
# Reading command lines

Main definitions:

* `Given` — what was given for an argument;
* `CommandLine.Reader` — what has been read of the arguments of one command;
* `CommandLine.read` — the arguments of a command and of the subcommands that were named;
* `CommandLine.Stop` — why there is nothing to run.

The value of an option is judged when the next argument of the command is taken, or at the end.  So
an unknown argument is reported before a bad value in front of it, and what is wrong with a
subcommand before what is wrong with the command.
-/

/-- What was given for an argument. -/
inductive Given
  | present
  | times (count : Nat)
  | text (s : String)
  | path (p : Path)
deriving DecidableEq, Repr

namespace CommandLine

/-- Why there is nothing to run.  The path leads to the command in question. -/
inductive Stop
  /-- Help was asked for, in full or in short. -/
  | help (inFull : Bool) (path : List Command)
  | version (path : List Command)
  /-- A command that needs a subcommand stands by itself. -/
  | bare (path : List Command)
  | fault (e : LineFault)

/-- The arguments that were given to one command, by key, in order. -/
abbrev Arguments := List (String × Given)

/-- What has been read of the arguments of one command. -/
structure Reader where
  given : Arguments := []
  /-- The argument that was named last, and its value if there is one already. -/
  pending : Option (Argument × Option Bytes) := none
  /-- Whether the next word may be the value of the pending argument. -/
  wantsValue : Bool := false
  /-- Whether options have ended. -/
  optionsEnded : Bool := false
  operandTaken : Bool := false

/-! ### Values -/

/-- The value of an argument that takes one. -/
def readValue (a : Argument) (value : Bytes) : Except LineFault Given :=
  match a.operand with
  | .path _ => if value = [] then .error (.missingValue a.title) else .ok (.path ⟨value⟩)
  | .choice _ choices _ =>
    match Text.decodeUtf8? value with
    | some name =>
      if choices.any (·.name = name) then .ok (.text name)
      else if name = "" then .error (.missingValue a.title)
      else .error (.invalidValue name a.title)
    | none => .error (.invalidValue (Text.decodeLossy value) a.title)
  | _ =>
    match Text.decodeUtf8? value with
    | some s => .ok (.text s)
    | none => .error .notText

namespace Reader

/-- With something given for an argument. -/
def give (r : Reader) (a : Argument) (g : Given) : Reader :=
  { r with given := r.given ++ [(a.key, g)] }

/-- What is given for an argument that must not have been given before. -/
def giveOnce (r : Reader) (a : Argument) (g : Except LineFault Given) : Except LineFault Reader :=
  if (r.given.lookup a.key).isSome then .error (.repeated a.title)
  else g.map (r.give a)

/-- How often an argument has been given. -/
def count (r : Reader) (a : Argument) : Nat :=
  match r.given.lookup a.key with
  | some (.times n) => n
  | _ => 0

/-- An argument and its value, with nothing pending. -/
def takeNow (path : List Command) (byLongName : Bool) (r : Reader) (a : Argument)
    (value : Option Bytes) : Except Stop Reader :=
  match a.operand with
  | .help => .error (.help byLongName path)
  | .version => .error (.version path)
  | .nothing => (r.giveOnce a (.ok .present)).mapError .fault
  | .tally =>
    -- the new count takes the place of the old one, so the key is given once
    let others := r.given.filter (·.1 ≠ a.key)
    .ok ({ r with given := others }.give a (.times (r.count a + 1)))
  | .text _ | .path _ | .choice .. | .words _ =>
    match value with
    | none => .error (.fault (.missingValue a.title))
    | some value => (r.giveOnce a (readValue a value)).mapError .fault

/-- The pending argument is taken. -/
def settle (path : List Command) (r : Reader) : Except Stop Reader :=
  match r.pending with
  | none => .ok r
  | some (a, value) => takeNow path true { r with pending := none, wantsValue := false } a value

/-- An argument and its value, after what is pending. -/
def take (path : List Command) (byLongName : Bool) (r : Reader) (a : Argument)
    (value : Option Bytes) : Except Stop Reader := do
  let r ← r.settle path
  takeNow path byLongName { r with wantsValue := false } a value

/-- An argument whose value is still to come. -/
def await (path : List Command) (r : Reader) (a : Argument) : Except Stop Reader := do
  let r ← r.settle path
  return { r with pending := some (a, none), wantsValue := true }

/-- The next word is the value of the pending argument. -/
def supply (r : Reader) (value : Bytes) : Reader :=
  { r with pending := r.pending.map fun (a, _) => (a, some value), wantsValue := false }

end Reader

/-! ### Options -/

/-- The byte of a hyphen. -/
def hyphen : UInt8 := 0x2D

/-- The byte of an equals sign. -/
def equalsSign : UInt8 := 0x3D

/-- What a word looks like. -/
inductive WordKind
  /-- Two hyphens: no options follow. -/
  | optionsEnd
  | long (name : Bytes)
  | short (name : Bytes)
  | plain

/-- What a word looks like.  A hyphen by itself is plain. -/
def WordKind.of : Bytes → WordKind
  | a :: b :: rest =>
    if a ≠ hyphen then .plain
    else if b ≠ hyphen then .short (b :: rest)
    else if rest = [] then .optionsEnd
    else .long rest
  | _ => .plain

/-- An argument that is not known. -/
def unknown {α : Type} (text : String) : Except Stop α := .error (.fault (.unknownArgument text))

/-- What stands before the first equals sign, and what stands after it. -/
def splitValue (word : Bytes) : Bytes × Option Bytes :=
  match word.dropWhile (· ≠ equalsSign) with
  | [] => (word, none)
  | _ :: value => (word.takeWhile (· ≠ equalsSign), some value)

/-- An option by its long name, without the hyphens. -/
def readLong (path : List Command) (c : Command) (r : Reader) (word : Bytes) :
    Except Stop Reader :=
  let (name, value) := splitValue word
  match (Text.decodeUtf8? name).bind c.longOption? with
  | none => unknown ("--" ++ Text.decodeLossy name)
  | some a =>
    match value with
    | some value =>
      if a.takesValue then r.take path true a (some value)
      else .error (.fault (.needlessValue (Text.decodeLossy value) a.title))
    | none => if a.takesValue then r.await path a else r.take path true a none

/-- The characters at the start of bytes, and the bytes after them that are no character. -/
def characters (bytes : Bytes) : List Char × Bytes :=
  let isChar : Text.Chunk → Option Char
    | .char c => some c
    | .stray _ => none
  let known := ((Text.chunks bytes).map isChar).takeWhile Option.isSome
  let cs := known.filterMap id
  (cs, bytes.drop (Text.encodeUtf8 (String.ofList cs)).length)

/-- Options by their short names, in one word.  The rest of the word is the value of the first that
    takes one. -/
def readShort (path : List Command) (c : Command) (tail : Bytes) :
    List Char → Reader → Except Stop Reader
  | [], r => if tail = [] then .ok r else unknown ("-" ++ Text.decodeLossy tail)
  | name :: rest, r =>
    match c.shortOption? name with
    | none => unknown (String.ofList ['-', name])
    | some a =>
      if a.takesValue then
        -- what is left of the word is the value, with or without an equals sign in front
        match Text.encodeUtf8 (String.ofList rest) ++ tail with
        | [] => r.await path a
        | b :: value => r.take path false a (some (if b = equalsSign then value else b :: value))
      else do
        let r ← r.take path false a none
        readShort path c tail rest r

/-! ### Commands -/

/-- The argument of a key. -/
def argument? (c : Command) (key : String) : Option Argument :=
  (c.operand.toList ++ c.options).find? (·.key = key)

/-- The first two arguments that exclude each other. -/
def exclusion? (c : Command) (given : Arguments) : Option LineFault :=
  let present := given.filterMap fun g => argument? c g.1
  let excludes (a b : Argument) : Bool := a.excludes.contains b.key || b.excludes.contains a.key
  present.findSome? fun a =>
    (present.find? (excludes a)).map fun b => .excluded a.title b.title

/-- The arguments that are missing: the operand, and what others require. -/
def missing (c : Command) (given : Arguments) : List String :=
  let isGiven (key : String) : Bool := (given.lookup key).isSome
  let required := given.flatMap fun g => ((argument? c g.1).map Argument.requires).getD []
  let keys := c.operand.toList.map Argument.key ++ required
  (keys.filter fun key => !isGiven key).map fun key =>
    ((argument? c key).map Argument.title).getD key

/-- The arguments of a command, all of which have been read. -/
def finish (path : List Command) (c : Command) (hasSubcommand : Bool) (r : Reader) :
    Except Stop Arguments := do
  let r ← r.settle path
  if c.needsSubcommand ∧ !hasSubcommand then
    if r.given = [] then .error (.bare path)
    else .error (.fault (.missingSubcommand (Command.names path " ")))
  else
    match exclusion? c r.given, missing c r.given with
    | some e, _ => .error (.fault e)
    | none, [] => .ok r.given
    | none, titles => .error (.fault (.missingArguments titles))

/-- The help of the command that words name. -/
def helpOn (path : List Command) (c : Command) : List Bytes → Stop
  | [] => .help true path
  | word :: rest =>
    match c.subcommand? word with
    | some s => helpOn (path ++ [s]) s rest
    | none => .fault (.unknownSubcommand (Text.decodeLossy word))

/-- The name of the command that shows the help of others. -/
def helpName : String := "help"

/-- What a word is that is neither an option nor a value. -/
def strayWord (c : Command) (r : Reader) (word : Bytes) : LineFault :=
  let text := Text.decodeLossy word
  if c.subcommands.isEmpty ∨ (r.optionsEnded ∧ (c.subcommand? word).isSome) then
    .unknownArgument text
  else .unknownSubcommand text

/-- The word by position: the operand, if there is one and it has not been given. -/
def readOperand (path : List Command) (c : Command) (r : Reader) (word : Bytes) :
    Except Stop Reader :=
  match c.operand with
  | some a =>
    if r.operandTaken then .error (.fault (strayWord c r word))
    else do
      let r ← r.settle path
      return { r with pending := some (a, some word), operandTaken := true }
  | none => .error (.fault (strayWord c r word))

/-- One word that names no subcommand. -/
def readWord (path : List Command) (c : Command) (r : Reader) (word : Bytes) :
    Except Stop Reader :=
  if r.optionsEnded then readOperand path c r word
  else
    match WordKind.of word with
    | .optionsEnd => .ok { r with optionsEnded := true }
    | .long name => readLong path c r name
    | .short name => let (cs, tail) := characters name; readShort path c tail cs r
    | .plain => if r.wantsValue then .ok (r.supply word) else readOperand path c r word

/-- The subcommand that a word names.  The value of an option names none. -/
def subcommandHere? (c : Command) (r : Reader) (word : Bytes) : Option Command :=
  if r.optionsEnded ∨ r.wantsValue then none else c.subcommand? word

/-- What was given to a command and to the subcommands below it, each with its name. -/
def readFrom (path : List Command) (c : Command) :
    List Bytes → Reader → Except Stop (List (String × Arguments))
  | [], r => do
    let given ← finish path c false r
    return [(c.name, given)]
  | word :: rest, r =>
    match subcommandHere? c r word with
    | some s =>
      if s.name = helpName then .error (helpOn path c rest)
      else do
        let below ← readFrom (path ++ [s]) s rest {}
        let given ← finish path c true r
        return (c.name, given) :: below
    | none => do
      let r ← readWord path c r word
      readFrom path c rest r

/-- What was given to a command and to the subcommands below it, each with its name. -/
def read (c : Command) (words : List Bytes) : Except Stop (List (String × Arguments)) :=
  readFrom [c] c words {}

end CommandLine

end SovdConfig
