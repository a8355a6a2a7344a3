import PathRouter.PublicName

/-!
# What the command line accepts

The program has three commands, each with operands of its own, and a switch for
the level of what is logged.  Its usage and help texts are made from these
tables.

## Main definitions

* `CommandKind`, `Switch` and `Operand`: what can be written.
* `Interface`: what the program, or one of its commands, accepts.
* `Interface.usage` and `Interface.help`: the texts.
-/

namespace PathRouter
namespace CommandLine

/-- The least urgent records that are shown. -/
inductive LogLevel where
  /-- Everything is shown. -/
  | debug
  /-- Progress is shown. -/
  | info
  /-- Warnings are shown. -/
  | warning
  /-- Only failures are shown. -/
  | error
deriving DecidableEq, Repr

namespace LogLevel

/-- The levels in the order in which messages list them. -/
def all : List LogLevel := [debug, info, warning, error]

/-- The name of a level. -/
def name : LogLevel → String
  | debug => "debug"
  | info => "info"
  | warning => "warning"
  | error => "error"

/-- The level with a name. -/
def ofName? (name : String) : Option LogLevel :=
  all.find? (·.name == name)

end LogLevel

/-- The commands. -/
inductive CommandKind where
  /-- Lists the routes. -/
  | routes
  /-- Resolves a path. -/
  | resolve
  /-- Compiles the routes. -/
  | check
deriving DecidableEq, Repr

namespace CommandKind

/-- The commands in the order in which messages list them. -/
def all : List CommandKind := [routes, resolve, check]

/-- The name of a command. -/
def name : CommandKind → String
  | routes => "routes"
  | resolve => "match"
  | check => "check"

/-- What a command does. -/
def summary : CommandKind → String
  | routes => "List routes and their compiled regexes"
  | resolve => "Resolve a path against the routes"
  | check => "Compile every route and report errors"

/-- The command with a name. -/
def ofName? (name : String) : Option CommandKind :=
  all.find? (·.name == name)

end CommandKind

/-- The switches. -/
inductive Switch where
  /-- Shows the help text. -/
  | help
  /-- Chooses the level of what is logged. -/
  | logLevel
deriving DecidableEq, Repr

/-- Names as a set of choices. -/
def choiceList (names : List String) : String :=
  "\x7b" ++ ",".intercalate names ++ "\x7d"

/-- The levels as a set of choices. -/
def levelChoices : String := choiceList (LogLevel.all.map LogLevel.name)

/-- The commands as a set of choices. -/
def commandChoices : String :=
  choiceList (CommandKind.all.map CommandKind.name)

namespace Switch

/-- The spellings of a switch. -/
def spellings : Switch → List String
  | help => ["-h", "--help"]
  | logLevel => ["--log-level"]

/-- A switch in the usage line. -/
def usage : Switch → String
  | help => "[-h]"
  | logLevel => "[--log-level " ++ levelChoices ++ "]"

/-- A switch in the help text. -/
def label : Switch → String
  | help => "-h, --help"
  | logLevel => "--log-level " ++ levelChoices

/-- What a switch does. -/
def summary : Switch → String
  | help => "show this help message and exit"
  | logLevel => "Logging verbosity (default: warning)"

/-- A switch in messages. -/
def inMessages (switch : Switch) : String :=
  "/".intercalate switch.spellings

end Switch

/-- The operands. -/
inductive Operand where
  /-- A command with all that follows it. -/
  | command
  /-- Where the routes come from. -/
  | source
  /-- The path that is resolved. -/
  | path
deriving DecidableEq, Repr

namespace Operand

/-- The name of an operand in messages. -/
def name : Operand → String
  | command => "command"
  | source => "source"
  | path => "path"

/-- An operand in the usage line. -/
def usage : Operand → String
  | command => commandChoices ++ " ..."
  | operand => operand.name

/-- Whether an operand has to be there. -/
def isRequired : Operand → Bool
  | command => false
  | _ => true

end Operand

/-- What the program, or one of its commands, accepts. -/
structure Interface where
  /-- The name in front of usage lines and messages. -/
  program : String
  /-- What the program is for, if the help text says so. -/
  description? : Option String := none
  /-- The switches. -/
  switches : List Switch
  /-- The operands. -/
  operands : List Operand
deriving DecidableEq, Repr

namespace Interface

/-- The name of the program. -/
def programName : String := PublicName.package

/-- What the program accepts. -/
def main : Interface where
  program := programName
  description? := some "Waypost — URL-pattern router tooling."
  switches := [.help, .logLevel]
  operands := [.command]

/-- What a command accepts. -/
def ofCommand (command : CommandKind) : Interface where
  program := programName ++ " " ++ command.name
  switches := [.help]
  operands :=
    match command with
    | .routes | .check => [.source]
    | .resolve => [.source, .path]

/-- The spellings of all switches. -/
def spellings (interface : Interface) : List (String × Switch) :=
  interface.switches.flatMap fun switch =>
    switch.spellings.map (·, switch)

/-- The greatest width of a usage line. -/
def maxUsageWidth : Nat := 78

/-- The usage line, or two lines if one would be too wide. -/
def usage (interface : Interface) : String :=
  let front := "usage: " ++ interface.program ++ " "
  let switches := " ".intercalate (interface.switches.map Switch.usage)
  let operands := " ".intercalate (interface.operands.map Operand.usage)
  let line := front ++ switches ++ " " ++ operands
  if line.length ≤ maxUsageWidth then line ++ "\n"
  else
    front ++ switches ++ "\n" ++
      String.ofList (List.replicate front.length ' ') ++ operands ++ "\n"

/-- A line of the help text. -/
structure HelpLine where
  /-- The number of blanks in front. -/
  indentation : Nat
  /-- What is explained. -/
  label : String
  /-- The explanation, if there is one. -/
  summary? : Option String

/-- Blanks that fill a text up to a width. -/
def fill (width : Nat) (text : String) : String :=
  text ++ String.ofList (List.replicate (width - text.length) ' ')

/-- A line of the help text; explanations start in a column of their own, on
the next line if the label reaches too far. -/
def HelpLine.render (column : Nat) (line : HelpLine) : String :=
  let label := fill line.indentation "" ++ line.label
  match line.summary? with
  | none => label ++ "\n"
  | some summary =>
      if label.length + 2 ≤ column then
        fill column label ++ summary ++ "\n"
      else label ++ "\n" ++ fill column "" ++ summary ++ "\n"

/-- The lines of the help text about an operand. -/
def operandLines : Operand → List HelpLine
  | .command =>
      ⟨2, commandChoices, none⟩ ::
        CommandKind.all.map fun command =>
          ⟨4, command.name, some command.summary⟩
  | .source =>
      [⟨2, Operand.source.name,
        some "Config file or import string (e.g. myapp:router)"⟩]
  | .path =>
      [⟨2, Operand.path.name,
        some "Request path to resolve (e.g. /post/5)"⟩]

/-- The lines of the help text about a switch. -/
def switchLine (switch : Switch) : HelpLine :=
  ⟨2, switch.label, some switch.summary⟩

/-- The rightmost column of explanations. -/
def maxHelpColumn : Nat := 24

/-- The column of the explanations of some lines. -/
def helpColumn (lines : List HelpLine) : Nat :=
  min maxHelpColumn <|
    lines.foldl (fun column line =>
      max column (line.indentation + line.label.length + 2)) 0

/-- The help text. -/
def help (interface : Interface) : String :=
  let operands := interface.operands.flatMap operandLines
  let switches := interface.switches.map switchLine
  let column := helpColumn (operands ++ switches)
  let render (lines : List HelpLine) : String :=
    String.join (lines.map (·.render column))
  let description :=
    (interface.description?.map (· ++ "\n\n")).getD ""
  interface.usage ++ "\n" ++ description ++
    "positional arguments:\n" ++ render operands ++ "\n" ++
    "options:\n" ++ render switches

/-- What a refusal of arguments says. -/
def refusal (interface : Interface) (reason : String) : String :=
  interface.usage ++ interface.program ++ ": error: " ++ reason ++ "\n"

end Interface
end CommandLine
end PathRouter
