import ListenerPorts.CommandLine.Execute

set_option autoImplicit false

/-! # Running the program

A run of the program on the words of its command line, and the texts that it leaves on the standard
output and on the error output.
-/

namespace ListenerPorts.CommandLine

variable {σ : Type}

/-- The exit status of a program that stops at its command line. -/
def Stop.status : Stop → Nat
  | help _ => 0
  | misuse _ _ _ => 2

/-- Tells why the program stops at its command line. -/
def Stop.tell : Stop → Run σ Unit
  | help text => Run.emit (.printed text)
  | misuse usage program message =>
    Run.emit (.complained (usage ++ program ++ ": error: " ++ message ++ "\n"))

/-- Runs the program, up to its exit status. Without a request the help text is printed, and the
status is one. -/
def run (env : Environment σ) (words : List String) : Run σ Nat :=
  match Arguments.parse words with
  | .error stop => do
    stop.tell
    return stop.status
  | .ok { request := none, .. } => do
    Run.emit (.printed Arguments.grammar.help)
    return 1
  | .ok { request := some r, .. } => r.execute env

def places (loader : Loader) (words : List String) : List Path :=
  match Arguments.parse words with
  | .ok { request := some (.assign r), .. } => loader.places r.config
  | _ => []

/-- The level that the words of a command line ask for, if the program does not stop at them. -/
def levelOf? (words : List String) : Option Level := (Arguments.parse words).toOption.map (·.level)

def outputText (events : List Event) : String := String.join (events.filterMap Event.printedText?)

def logLine (time : String) (r : LogRecord) : String :=
  time ++ " - " ++ r.logger.name ++ " - " ++ r.level.name ++ " - " ++ r.message ++ "\n"

/-- What an event leaves on the error output: complaints, and logged messages of at least a
level. -/
def errorText? (time : String) (least : Level) : Event → Option String
  | .complained text => some text
  | .logged r => if least.rank ≤ r.level.rank then some (logLine time r) else none
  | _ => none

def errorText (time : String) (least : Level) (events : List Event) : String :=
  String.join (events.filterMap (errorText? time least))

end ListenerPorts.CommandLine
