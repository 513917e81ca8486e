/-! The command line: options, one command, and the command's own options. The network may be named before or
    after the command; the name after it counts, then the one before it, then the one in the environment.
    An option's value is the text attached to it or the next argument; it is taken over only when the next
    option is met or the arguments end, so that a wrong argument is reported before a repeated option. -/

namespace SplitterLaunch

/-- A command with what its own options say. -/
inductive Command where
  | balance (address : Option String)
  | estimate (json : Bool)
  | deploy
  | networks
deriving DecidableEq, Repr

/-- What a command line asks for. -/
structure Invocation where
  network : Option String
  command : Command
deriving DecidableEq, Repr

/-- A command by its name. -/
inductive CommandName where
  | balance
  | estimate
  | deploy
  | networks
deriving DecidableEq, Repr

namespace CommandName

def text : CommandName → String
  | balance => "balance"
  | estimate => "estimate"
  | deploy => "deploy"
  | networks => "networks"

def all : List CommandName := [balance, estimate, deploy, networks]

def ofString? (s : String) : Option CommandName := all.find? fun c => c.text == s

theorem ofString?_text (c : CommandName) : ofString? c.text = some c := by cases c <;> decide

end CommandName

/-- A page of help. -/
inductive HelpTopic where
  | program
  | command (name : CommandName)
  | help
deriving DecidableEq, Repr

/-- What is wrong with a command line. -/
inductive CommandLineFault where
  /-- There is nothing on it, and nothing in the environment in its stead. -/
  | nothingGiven
  | noCommand
  | unknownCommand
  | unknownArgument
  /-- An option has no value. -/
  | noValue
  /-- An option that takes no value has one. -/
  | unwantedValue
  /-- An option stands on it twice. -/
  | repeated
deriving DecidableEq, Repr

/-- What a command line comes to if it does not invoke a command. -/
inductive CommandLineEnd where
  | help (topic : HelpTopic)
  | version
  | fault (fault : CommandLineFault)
deriving DecidableEq, Repr

namespace CommandLine

/-- An option. -/
inductive Switch where
  | network
  | address
  | json
  | help
  | version
deriving DecidableEq, Repr

/-- Where options stand: before the command, or after it. -/
inductive Level where
  | top
  | after (c : CommandName)
deriving DecidableEq, Repr

namespace Level

def long? : Level → String → Option Switch
  | _, "network" => some .network
  | _, "help" => some .help
  | top, "version" => some .version
  | after .balance, "address" => some .address
  | after .estimate, "json" => some .json
  | _, _ => none

def short? : Level → Char → Option Switch
  | _, 'n' => some .network
  | _, 'h' => some .help
  | top, 'V' => some .version
  | _, _ => none

def topic : Level → HelpTopic
  | top => .program
  | after c => .command c

def helpCommand : String := "help"

/-- What is wrong with an argument that no option takes. At the top it stands where a command should, unless
    it is a command's name and stands where only values may. -/
def stray (l : Level) (closed : Bool) (arg : String) : CommandLineFault :=
  match l with
  | top =>
    if closed && (arg == helpCommand || (CommandName.ofString? arg).isSome) then .unknownArgument
    else .unknownCommand
  | after _ => .unknownArgument

end Level

/-- What the options at one level say. -/
structure Given where
  network : Option String
  address : Option String
  json : Bool
deriving DecidableEq, Repr

namespace Given

def none : Given := ⟨.none, .none, false⟩

/-- What the options say with one more, which may not be repeated. -/
def insert (g : Given) (s : Switch) (value : String) : Except CommandLineEnd Given :=
  match s with
  | .network => if g.network.isSome then .error (.fault .repeated) else .ok { g with network := some value }
  | .address => if g.address.isSome then .error (.fault .repeated) else .ok { g with address := some value }
  | .json => if g.json then .error (.fault .repeated) else .ok { g with json := true }
  | _ => .ok g

def command (g : Given) : CommandName → Command
  | .balance => .balance g.address
  | .estimate => .estimate g.json
  | .deploy => .deploy
  | .networks => .networks

end Given

/-- The state of reading arguments at one level. -/
structure Reading where
  given : Given
  /-- The last option that takes a value, and its value when it has come. -/
  pending : Option (Switch × Option String)
  /-- A double dash has come, after which there are no options. -/
  closed : Bool
deriving DecidableEq, Repr

namespace Reading

def start : Reading := ⟨.none, none, false⟩

/-- Whether the next argument is a value if it is no option. -/
def awaitsValue (r : Reading) : Bool :=
  match r.pending with
  | some (_, none) => !r.closed
  | _ => false

def awaitsCommand (r : Reading) : Bool := !r.closed && !r.awaitsValue

def settle (r : Reading) : Except CommandLineEnd Reading :=
  match r.pending with
  | none => .ok r
  | some (_, none) => .error (.fault .noValue)
  | some (s, some value) => do return { r with given := ← r.given.insert s value, pending := none }

def flag (l : Level) (r : Reading) (s : Switch) : Except CommandLineEnd Reading := do
  let r ← r.settle
  match s with
  | .help => .error (.help l.topic)
  | .version => .error .version
  | .json => return { r with given := ← r.given.insert s "" }
  | _ => return { r with pending := some (s, none) }

def attached (r : Reading) (s : Switch) (value : String) : Except CommandLineEnd Reading := do
  let r ← r.settle
  return { r with given := ← r.given.insert s value }

def takesValue : Switch → Bool
  | .network => true
  | .address => true
  | _ => false

/-- Reads options of one letter. After one that takes a value comes its value, if anything does, with or
    without an equals sign. -/
def shorts (l : Level) (r : Reading) : List Char → Except CommandLineEnd Reading
  | [] => .ok r
  | c :: cs =>
    match l.short? c with
    | none => .error (.fault .unknownArgument)
    | some s =>
      if takesValue s then
        match cs with
        | [] => r.flag l s
        | '=' :: value => r.attached s (String.ofList value)
        | value => r.attached s (String.ofList value)
      else do shorts l (← r.flag l s) cs

def long (l : Level) (r : Reading) (cs : List Char) : Except CommandLineEnd Reading :=
  let name := cs.takeWhile (· ≠ '=')
  match l.long? (String.ofList name), cs.dropWhile (· ≠ '=') with
  | none, _ => .error (.fault .unknownArgument)
  | some s, [] => r.flag l s
  | some s, _ :: value =>
    if takesValue s then r.attached s (String.ofList value) else .error (.fault .unwantedValue)

def argument (l : Level) (r : Reading) (arg : String) : Except CommandLineEnd Reading :=
  if r.closed then .error (.fault (l.stray true arg))
  else match arg.toList with
    | ['-', '-'] => .ok { r with closed := true }
    | '-' :: '-' :: cs => r.long l cs
    | '-' :: c :: cs => r.shorts l (c :: cs)
    | _ =>
      match r.pending with
      | some (s, none) => .ok { r with pending := some (s, some arg) }
      | _ => .error (.fault (l.stray false arg))

end Reading

def readOwn (c : CommandName) (args : List String) : Except CommandLineEnd Given := do
  let r ← args.foldlM (Reading.argument (.after c)) .start
  return (← r.settle).given

/-- The help that the arguments after the help command ask for. -/
def helpOn : List String → CommandLineEnd
  | [] => .help .program
  | [name] =>
    if name = Level.helpCommand then .help .help
    else match CommandName.ofString? name with
      | some c => .help (.command c)
      | none => .fault .unknownCommand
  | _ => .fault .unknownCommand

/-- Reads all arguments: what the options before the command say, and the command with what its own say. -/
def readFrom (r : Reading) : List String → Except CommandLineEnd (Given × Option (CommandName × Given))
  | [] => do return ((← r.settle).given, none)
  | arg :: rest =>
    if r.awaitsCommand && arg == Level.helpCommand then .error (helpOn rest)
    else match if r.awaitsCommand then CommandName.ofString? arg else none with
      | some c => do
        let own ← readOwn c rest
        return ((← r.settle).given, some (c, own))
      | none => do readFrom (← r.argument .top arg) rest

/-- Reads a command line, given the network that the environment names. -/
def read (args : List String) (networkVariable : Option String) : Except CommandLineEnd Invocation := do
  match ← readFrom .start args with
  | (given, none) =>
    .error (.fault (if given.network.isNone && networkVariable.isNone then .nothingGiven else .noCommand))
  | (given, some (c, own)) => return ⟨own.network <|> given.network <|> networkVariable, own.command c⟩

end CommandLine
end SplitterLaunch
