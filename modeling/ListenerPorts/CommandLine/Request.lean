import ListenerPorts.CommandLine.Parse
import ListenerPorts.Numeral.Integer
import ListenerPorts.Registry
import ListenerPorts.World.Event

set_option autoImplicit false

/-! # Requests

What can be asked of the program on its command line. One command assigns the ports of a configured
service, the other one probes listed ports.
-/

namespace ListenerPorts.CommandLine

inductive Command where
  | assign
  | probe
deriving DecidableEq, Repr

namespace Command

def name : Command → String
  | assign => "assign"
  | probe => "probe"

def help : Command → String
  | assign => "Assign application and admin ports for a service configuration"
  | probe => "Check whether ports are available"

def offersJson : Command → Bool
  | assign | probe => true

def all : List Command := [assign, probe]

def names : List String := all.map name

def ofName? (s : String) : Option Command := all.find? (·.name == s)

end Command

structure AssignRequest where
  /-- the path or name of the configuration -/
  config : String := ""
  /-- the finder in place of the configured one -/
  finder : Option String := none
  /-- whether to keep the configured ports -/
  static : Bool := false
  json : Bool := false

structure ProbeRequest where
  /-- the listed numbers -/
  ports : List Int := []
  /-- the address to bind the ports on -/
  address : String := ""
  json : Bool := false

inductive Request where
  | assign (r : AssignRequest)
  | probe (r : ProbeRequest)

/-- What a command line says: the least level of the messages that are shown, and the request, if
there is one. -/
structure Arguments where
  level : Level := .warning
  request : Option Request := none
  /-- the words that the command of the request does not understand -/
  left : List String := []

/-- The switch that asks for the help text. -/
def helpSwitch {α : Type} : Switch α := ⟨["-h", "--help"], .help⟩

/-- What the help text says about that switch, at a width of the first column. -/
def helpLine (gap : String) : String := "  -h, --help" ++ gap ++ "show this help message and exit\n"

def choiceText (choices : List String) : String := "\x7b" ++ ",".intercalate choices ++ "\x7d"

def finderNames : List String := Registry.builtIn.names

namespace AssignRequest

def withFinder (word : String) (r : AssignRequest) : Except String AssignRequest :=
  if finderNames.contains word then .ok { r with finder := some word }
  else .error (invalidChoice finderNames word)

/-- The grammar of the words after `assign`. -/
def grammar : Grammar AssignRequest where
  program := "dynamic-ports assign"
  usage :=
    "usage: dynamic-ports assign [-h] [--finder " ++ choiceText finderNames ++ "]\n" ++
    "                            [--static] [--json]\n" ++
    "                            config\n"
  rest :=
    "positional arguments:\n" ++
    "  config                Path or name of the service configuration file\n" ++
    "\n" ++
    "options:\n" ++
    helpLine "            " ++
    "  --finder " ++ choiceText finderNames ++ "\n" ++
    "                        Override the configured free port finder\n" ++
    "  --static              Keep the configured ports instead of assigning dynamic\n" ++
    "                        ones\n" ++
    "  --json                Output as JSON\n"
  switches :=
    [helpSwitch, ⟨["--finder"], .word withFinder⟩,
     ⟨["--static"], .flag ({ · with static := true })⟩,
     ⟨["--json"], .flag ({ · with json := true })⟩]
  slot := ⟨"config", .one, true, fun words r => .ok { r with config := words.headD "" }⟩

end AssignRequest

namespace ProbeRequest

def readPort (word : String) : Except Refusal Int :=
  match Numeral.readInteger? 10 word.toList with
  | some port => .ok port
  | none => .error (.unfit ("invalid int value: " ++ Text.quoted word))

def withPorts (words : List String) (r : ProbeRequest) : Except Refusal ProbeRequest := do
  return { r with ports := ← words.mapM readPort }

/-- The grammar of the words after `probe`. -/
def grammar : Grammar ProbeRequest where
  program := "dynamic-ports probe"
  usage := "usage: dynamic-ports probe [-h] [--host HOST] [--json] ports [ports ...]\n"
  rest :=
    "positional arguments:\n" ++
    "  ports        Port numbers to check\n" ++
    "\n" ++
    "options:\n" ++
    helpLine "   " ++
    "  --host HOST  Host address to bind to (default: all interfaces)\n" ++
    "  --json       Output as JSON\n"
  switches :=
    [helpSwitch, ⟨["--host"], .word fun word r => .ok { r with address := word }⟩,
     ⟨["--json"], .flag ({ · with json := true })⟩]
  slot := ⟨"ports", .many, true, withPorts⟩

end ProbeRequest

namespace Arguments

def levelNames : List String := Level.all.map Level.name

def withLevel (word : String) (a : Arguments) : Except String Arguments :=
  match Level.ofName? word with
  | some level => .ok { a with level }
  | none => .error (invalidChoice levelNames word)

/-- The arguments with the request that a command and the words after it make. -/
def withRequest (words : List String) (a : Arguments) : Except Refusal Arguments :=
  match Command.ofName? (words.headD "") with
  | none => .error (.unfit (invalidChoice Command.names (words.headD "")))
  | some .assign =>
    match parseKnown AssignRequest.grammar {} words.tail with
    | .ok (r, left) => .ok { a with request := some (.assign r), left }
    | .error stop => .error (.stopped stop)
  | some .probe =>
    match parseKnown ProbeRequest.grammar {} words.tail with
    | .ok (r, left) => .ok { a with request := some (.probe r), left }
    | .error stop => .error (.stopped stop)

def grammar : Grammar Arguments where
  program := "dynamic-ports"
  usage :=
    "usage: dynamic-ports [-h] [--log-level " ++ choiceText levelNames ++ "]\n" ++
    "                     " ++ choiceText Command.names ++ " ...\n"
  rest :=
    "Assign application and admin ports for a service\n" ++
    "\n" ++
    "positional arguments:\n" ++
    "  " ++ choiceText Command.names ++ "        Available commands\n" ++
    "    assign              Assign application and admin ports for a service\n" ++
    "                        configuration\n" ++
    "    probe               Check whether ports are available\n" ++
    "\n" ++
    "options:\n" ++
    helpLine "            " ++
    "  --log-level " ++ choiceText levelNames ++ ", -l " ++ choiceText levelNames ++ "\n" ++
    "                        Logging level (default: WARNING)\n" ++
    "\n" ++
    "Examples:\n" ++
    "  # Resolve ports for config/service.yml\n" ++
    "  dynamic-ports assign service\n" ++
    "\n" ++
    "  # Same, but scan for two adjacent ports and print JSON\n" ++
    "  dynamic-ports assign config/service.yml --finder adjacent --json\n" ++
    "\n" ++
    "  # Check whether ports are free\n" ++
    "  dynamic-ports probe 8080 8081\n" ++
    "        \n"
  switches := [helpSwitch, ⟨["--log-level", "-l"], .word withLevel⟩]
  slot := ⟨"command", .all, false, withRequest⟩

/-- What the words of a command line say. Words that are left over are a mistake. -/
def parse (words : List String) : Except Stop Arguments := do
  let (a, left) ← parseKnown grammar {} words
  match left ++ a.left with
  | [] => return a
  | left => throw (grammar.misuse ("unrecognized arguments: " ++ " ".intercalate left))

end Arguments

end ListenerPorts.CommandLine
