import SplitterLaunch.CommandLine
import SplitterLaunch.Network.Registry
import SplitterLaunch.Text.Terminal

/-! The pages of help. Each says what something is for and how it is used, and then lists what can be given
    with it, in two columns. Headings and names are marked for terminals, and the text of a page is what is
    left without the marks: a sequence that a name or value starts and does not end goes on to the next
    mark. -/

namespace SplitterLaunch
namespace HelpTopic

def programName : String := "x402-deploy"

/-- The version, as it is shown. -/
def versionText : String := programName ++ " 0.1.0\n"

def about : CommandName → String
  | .balance => "Print the signer's native token balance"
  | .estimate => "Estimate the cost of deploying X402Splitter without sending anything"
  | .deploy => "Deploy X402Splitter and record it in the deployments file"
  | .networks => "List the configured networks"

def aboutHelp : String := "Print this message or the help of the given subcommand(s)"

/-- The blanks that fill up a column after a text. -/
def filling (width : Nat) (s : String) : String := String.ofList (List.replicate (width - s.length) ' ')

/-- The width of the column of options, the blanks around it included. -/
def optionWidth : Nat := 27

/-- An entry in the list of options: an option with the value that it takes, and lines of description below
    each other. -/
def optionEntry (short : Option String) (long value description : String) : String :=
  let start := match short with
    | some short => "  " ++ Terminal.bold short ++ ", "
    | none => "      "
  let plain := "      " ++ long ++ value
  let indented := description.toList.flatMap fun c =>
    if c = '\n' then '\n' :: List.replicate optionWidth ' ' else [c]
  start ++ Terminal.bold long ++ value ++ filling optionWidth plain ++ String.ofList indented

/-- The option that names the network, with what the environment says. -/
def networkEntry (networkVariable : Option String) : String :=
  optionEntry (some "-n") "--network" " <NETWORK>"
    ("Network name or alias (defaults to " ++ Registry.defaultName ++ ") [env: NETWORK="
      ++ networkVariable.getD "" ++ "]")

def helpEntry : String := optionEntry (some "-h") "--help" "" "Print help"

def ownEntries : CommandName → List String
  | .balance => [optionEntry none "--address" " <ADDRESS>" "Address to check instead of the signer or admin"]
  | .estimate => [optionEntry none "--json" "" "Print the estimate as JSON"]
  | _ => []

def commandEntry (name description : String) : String :=
  "  " ++ Terminal.bold name ++ filling 10 name ++ description

def usageLine (name arguments : String) : String :=
  Terminal.boldUnderlined "Usage:" ++ " " ++ Terminal.bold name ++ " " ++ arguments

/-- A command after the name that the program was called by. -/
def commandName (program : Option String) (command : String) : String :=
  match program with
  | some program => program ++ " " ++ command
  | none => command

/-- The lines of a page, for the program under the name it was called by, if that is known. -/
def lines (program networkVariable : Option String) : HelpTopic → List String
  | .program =>
    ["Deploy and inspect the X402Splitter contract across networks",
     "",
     usageLine (program.getD programName) "[OPTIONS] <COMMAND>",
     "",
     Terminal.boldUnderlined "Commands:"]
      ++ (CommandName.all.map fun c => commandEntry c.text (about c))
      ++ [commandEntry CommandLine.Level.helpCommand aboutHelp,
          "",
          Terminal.boldUnderlined "Options:",
          networkEntry networkVariable,
          helpEntry,
          optionEntry (some "-V") "--version" "" "Print version"]
  | .command c =>
    [about c,
     "",
     usageLine (commandName program c.text) "[OPTIONS]",
     "",
     Terminal.boldUnderlined "Options:"]
      ++ ownEntries c
      ++ [networkEntry networkVariable, helpEntry]
  | .help =>
    [aboutHelp,
     "",
     usageLine (commandName program CommandLine.Level.helpCommand) "[COMMAND]...",
     "",
     Terminal.boldUnderlined "Arguments:",
     "  [COMMAND]...  Print help for the subcommand(s)"]

def marked (program networkVariable : Option String) (t : HelpTopic) : String :=
  String.join ((t.lines program networkVariable).map (· ++ "\n"))

def text (program networkVariable : Option String) (t : HelpTopic) : String :=
  Terminal.visible (t.marked program networkVariable)

end HelpTopic

/-- What is wrong with a command line, in words. -/
def CommandLineFault.message : CommandLineFault → String
  | .nothingGiven => "no command is given"
  | .noCommand => "no command is given"
  | .unknownCommand => "there is no such command"
  | .unknownArgument => "there is an argument that is not expected here"
  | .noValue => "an option has no value"
  | .unwantedValue => "an option has a value and takes none"
  | .repeated => "an option is given twice"

end SplitterLaunch
