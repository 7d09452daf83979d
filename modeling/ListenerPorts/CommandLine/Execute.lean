import ListenerPorts.CommandLine.Request
import ListenerPorts.Config.Loader
import ListenerPorts.Config.Validate
import ListenerPorts.Json.Printer
import ListenerPorts.Probing
import ListenerPorts.Service

set_option autoImplicit false

/-! # Executing requests

Does what a request asks for, prints what came of it, and ends with an exit status: zero if all went
well. What is wrong with a configuration, and a search that found nothing, is printed as an error.
-/

namespace ListenerPorts

variable {σ : Type}

/-- The result of an operation, or the message about the fault that ended it. A fault that has no
message is passed on. What was done before stays done. -/
def orMessage {τ α : Type} (x : EStateM Fault τ α) : EStateM Fault τ (Except String α) := fun s =>
  match x s with
  | .ok a s => .ok (.ok a) s
  | .error f s =>
    match f.message? with
    | some m => .ok (.error m) s
    | none => .error f s

namespace CommandLine

structure Environment (σ : Type) where
  loader : Loader
  readers : Readers
  files : Files
  machine : Machine σ

/-- Prints errors, which makes the exit status one. -/
def failure (messages : List String) : Run σ Nat := do
  messages.forM fun m => Run.printLine ("Error: " ++ m)
  return 1

namespace AssignRequest

def complaint? (r : AssignRequest) : Option String :=
  if r.static && (r.finder.getD "") ≠ "" then
    some "--finder has no effect together with --static"
  else none

def override (r : AssignRequest) (s : Settings) : Settings :=
  let s := if r.static then { s with useDynamic := .bool false } else s
  match r.finder with
  | none => s
  | some name => if name = "" then s else { s with finder := .text name }

def summary (s : Settings) (ports : ServicePorts) : Value :=
  .map [(.text "application_port", ports.application), (.text "admin_port", ports.admin),
    (.text "dynamic", s.useDynamic),
    (.text "secure", if s.useDynamic.isTrue then s.useSecure else s.useDynamic)]

/-- Prints a port in a line of its own. -/
def printPort (label : String) (port : Value) : Run σ Unit := do
  Run.requireTexts [port]
  Run.printLine (label ++ ": " ++ port.plain)

def printPorts (r : AssignRequest) (s : Settings) (ports : ServicePorts) : Run σ Unit :=
  if r.json then do
    Run.printLine (← Run.lift (Json.print (summary s ports)))
  else do
    printPort "Application port" ports.application
    printPort "Admin port" ports.admin

open Assignment

/-- Assigns the ports of a server that is configured with the settings. -/
def assignWith (r : AssignRequest) (env : Environment σ) (settings : Settings) :
    Assignment σ Nat := do
  let errors ← onWorld (Run.lift (Configuration.validate ⟨(← get).server, settings⟩))
  if errors.isEmpty then
    match ← orMessage (Service.run settings (env.machine.host "")) with
    | .error m => onWorld (failure [m])
    | .ok ports =>
      onWorld (r.printPorts settings ports)
      return 0
  else onWorld (failure errors)

/-- Loads the configuration onto the site and assigns the ports of its server. -/
def execute (r : AssignRequest) (env : Environment σ) : Assignment σ Nat := do
  match ← onWorld (orMessage (env.loader.load env.readers env.files r.config)) with
  | .error m => onWorld (failure [m])
  | .ok loaded =>
    modify fun s => { s with server := loaded.configuration.server }
    r.assignWith env (r.override loaded.configuration.settings)

end AssignRequest

namespace ProbeRequest

def invalidPorts (r : ProbeRequest) : List Int :=
  r.ports.filter fun p => !(1 ≤ p && p ≤ highestPort)

/-- Why a request cannot be executed. The numbers that are no ports are listed, so one of them without
a text is what fails. -/
def complaint? (r : ProbeRequest) : Except Fault (Option String) :=
  if r.invalidPorts.isEmpty then .ok none
  else if r.invalidPorts.all Value.intWritable then
    .ok (some ("Invalid port(s): " ++ ", ".intercalate (r.invalidPorts.map toString)))
  else .error .tooManyDigits

def line (port : Int) (free : Bool) : String :=
  "  " ++ (if free then "🟢" else "🔴") ++ " " ++ toString port ++ ": " ++
    (if free then "available" else "in use")

def summary (answers : List (Int × Bool)) : Value :=
  .map (answers.map fun a => (.text (toString a.1), .bool a.2))

def printAnswers (r : ProbeRequest) (answers : List (Int × Bool)) : Run σ Unit :=
  if r.json then do
    Run.printLine (← Run.lift (Json.print (summary answers)))
  else answers.forM fun a => Run.printLine (line a.1 a.2)

def execute (r : ProbeRequest) (env : Environment σ) : Run σ Nat := do
  let answers ← probePorts (env.machine.host r.address).probe r.ports
  r.printAnswers answers
  return if answers.all (·.2) then 0 else 1

end ProbeRequest

namespace Request

def complaint? : Request → Except Fault (Option String)
  | .assign r => .ok r.complaint?
  | .probe r => r.complaint?

/-- Does what a request asks for, on a site of its own. -/
def perform (env : Environment σ) : Request → Run σ Nat
  | .assign r => fun w =>
    match r.execute env ⟨⟨[], []⟩, w⟩ with
    | .ok status site => .ok status site.world
    | .error f site => .error f site.world
  | .probe r => r.execute env

def execute (env : Environment σ) (r : Request) : Run σ Nat := do
  match ← Run.lift r.complaint? with
  | some m => failure [m]
  | none => r.perform env

/-- Executes a request if there is one; without one there is nothing that could go well. -/
def executeAny (env : Environment σ) : Option Request → Run σ Nat
  | some r => r.execute env
  | none => pure 1

end Request

end CommandLine

end ListenerPorts
