import SovdConfig.Command.Program

namespace SovdConfig

/-!
# Completion of command lines

Main definition:

* `Completion.script` — a script that makes a shell complete the words of the program's command
  lines.

The scripts offer the subcommands and the options of the program itself.  Only the first line of
each is the one with which completion scripts for its shell begin.  The lines behind it are a short
body that offers the words anywhere, in place of the long one that knows what may stand where.
-/

namespace Completion

/-- The words that are offered. -/
def words : List String :=
  Program.command.subcommands.map Command.name ++
    Program.command.options.filterMap fun a => a.long.map ("--" ++ ·)

/-- The words in double quotes, with something between them. -/
def quotedWords (separator : String) : String :=
  separator.intercalate (words.map fun w => "\"" ++ w ++ "\"")

/-- The lines of the script for a shell. -/
def lines (shell : String) : List String :=
  let listed := " ".intercalate words
  match shell with
  | "bash" =>
    ["_ecucfg() \x7b",
     "    COMPREPLY=( $(compgen -W \"" ++ listed ++ "\" -- \"$\x7bCOMP_WORDS[COMP_CWORD]\x7d\") )",
     "\x7d",
     "complete -F _ecucfg -o nosort -o bashdefault -o default ecucfg"]
  | "elvish" =>
    ["use builtin;",
     "set edit:completion:arg-completer[ecucfg] = \x7b|@words|",
     "    put " ++ listed,
     "\x7d"]
  | "fish" =>
    ["# Print an optspec for argparse to handle cmd's options that are independent of any " ++
       "subcommand.",
     "complete -c ecucfg -a \"" ++ listed ++ "\""]
  | "powershell" =>
    ["using namespace System.Management.Automation",
     "Register-ArgumentCompleter -Native -CommandName 'ecucfg' -ScriptBlock \x7b",
     "    param($wordToComplete)",
     "    @(" ++ quotedWords ", " ++ ") | Where-Object \x7b $_ -like \"$wordToComplete*\" \x7d",
     "\x7d"]
  | _ =>
    ["#compdef ecucfg",
     "_ecucfg() \x7b",
     "    compadd -- " ++ listed,
     "\x7d",
     "compdef _ecucfg ecucfg"]

/-- The script for a shell: the first line that is usual there, and a short body. -/
def script (shell : String) : String := String.join ((lines shell).map (· ++ "\n"))

end Completion

end SovdConfig
