import SplitterLaunch.Command.Deploy
import SplitterLaunch.Command.Estimate
import SplitterLaunch.Command.Networks
import SplitterLaunch.CommandLine.Help
import SplitterLaunch.Environment.File

/-! The program as a whole: the file of variables is read before the command line, the command line before
    the settings, and the network is looked up only for commands that need one. -/

namespace SplitterLaunch

namespace Command

def network (settings : Settings) (name : Option String) : Run Network :=
  Run.require (fun fault => .usage (.unknownNetwork fault)) (settings.registry.resolve name)

def run (settings : Settings) (networkName : Option String) : Command → Run Unit
  | balance address => do Balance.run settings (← network settings networkName) address
  | estimate json => do Estimate.run settings (← network settings networkName) json
  | deploy => do Deploy.run settings (← network settings networkName)
  | networks => Networks.run settings.registry

end Command

namespace Program

/-- How a run of the program ends. -/
inductive End where
  | done
  /-- A failure, with its message and the messages of what lies below it. -/
  | failed (message : String) (causes : List String)
  | misused (fault : CommandLineFault)
  | crashed
deriving DecidableEq, Repr

namespace End

def exitCode : End → Nat
  | done => 0
  | failed _ _ => 1
  | misused _ => 2
  | crashed => 101

/-- A text with blanks after the end of each of its lines. -/
def indented (width : Nat) (s : String) : String :=
  String.ofList (s.toList.flatMap fun c => if c = '\n' then '\n' :: List.replicate width ' ' else [c])

def numbered (n : Nat) : String :=
  let digits := Numeral.decimal n
  String.ofList (List.replicate (5 - digits.length) ' ' ++ digits)

/-- The lines on what lies below a failure, which are numbered if there are several. -/
def causeLines : List String → List String
  | [] => []
  | [cause] => ["", "Caused by:", "    " ++ indented 4 cause]
  | causes => "" :: "Caused by:" :: causes.mapIdx fun n cause => numbered n ++ ": " ++ indented 7 cause

def report (message : String) (causes : List String) : String :=
  String.join ((("Error: " ++ message) :: causeLines causes).map (· ++ "\n"))

end End

def endOf : Except (Stop Failure) Unit → End
  | .ok () => .done
  | .error (.failed failure) => .failed failure.message failure.causes
  | .error .crashed => .crashed

def shown (text : String) (w : World) : World := { w with printed := w.printed ++ text }

def networkVariable : String := "NETWORK"

/-- The variable that has marks for terminals written also where there is no terminal. -/
def marksVariable : String := "CLICOLOR_FORCE"

/-- The variable that has no marks written, whatever else is set. -/
def noMarksVariable : String := "NO_COLOR"

/-- Whether help keeps its marks. A variable without a value does not count. -/
def keepsMarks (env : Environment) : Bool :=
  let isGiven (name : String) := (env name).any fun value => !value.isEmpty
  isGiven marksVariable && !isGiven noMarksVariable

def helpText (program : String) (env : Environment) (topic : HelpTopic) : String :=
  if keepsMarks env then topic.marked (some program) (env networkVariable)
  else topic.text (some program) (env networkVariable)

def invoke (env : Environment) (invocation : Invocation) (w : World) : End × World :=
  match Settings.ofEnvironment env with
  | .error .crashed => (.crashed, w)
  | .error (.failed fault) => (.failed (fault.messages.headD "") fault.messages.tail, w)
  | .ok settings =>
    let (result, w) := (invocation.command.run settings invocation.network).run w
    (endOf result, w)

/-- Runs the program, under the name it was called by. -/
def run (program : String) (arguments : List String) (env : Environment) (w : World) : End × World :=
  match EnvironmentFile.environment? w.disk.files env with
  | none => (.crashed, w)
  | some env =>
    match CommandLine.read arguments (env networkVariable) with
    | .error (.help topic) => (.done, shown (helpText program env topic) w)
    | .error .version => (.done, shown HelpTopic.versionText w)
    | .error (.fault fault) => (.misused fault, w)
    | .ok invocation => invoke env invocation w

end Program
end SplitterLaunch
