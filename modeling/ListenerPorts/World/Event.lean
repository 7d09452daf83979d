import ListenerPorts.Value.Text

set_option autoImplicit false

/-! # Events

What an operation does that can be seen from outside: the ports it asks a probe about, the random
numbers it draws, the steps it takes at the socket layer, the messages it logs, and the text it
prints.
-/

namespace ListenerPorts

inductive Level where
  | debug
  | info
  | warning
  | error
deriving DecidableEq, Repr

namespace Level

def name : Level → String
  | debug => "DEBUG"
  | info => "INFO"
  | warning => "WARNING"
  | error => "ERROR"

/-- All levels, the lightest first. -/
def all : List Level := [debug, info, warning, error]

def ofName? (s : String) : Option Level := all.find? (·.name == s)

def rank : Level → Nat
  | debug => 0
  | info => 1
  | warning => 2
  | error => 3

end Level

/-- The part of the program that logs a message. -/
inductive Logger where
  | connectors
  | configLoader
  | freePortFinders
  | portAssigner
  | portProbe
  | dynamicPorts
deriving DecidableEq, Repr

def Logger.name : Logger → String
  | connectors => "dynamic_ports.connectors"
  | configLoader => "dynamic_ports.config_loader"
  | freePortFinders => "dynamic_ports.services.free_port_finders"
  | portAssigner => "dynamic_ports.services.port_assigner"
  | portProbe => "dynamic_ports.services.port_probe_service"
  | dynamicPorts => "dynamic_ports.services.dynamic_ports_service"

structure LogRecord where
  logger : Logger
  level : Level
  message : String
deriving DecidableEq, Repr

inductive Event where
  /-- a probe was asked about a port; there is no answer if it failed -/
  | probed (port : Int) (answer : Option Bool)
  /-- a random number below `stop` was drawn -/
  | drew (stop : Nat)
  | socketCreated
  | socketBound (host : String) (port : Value)
  | socketClosed
  | logged (record : LogRecord)
  | printed (text : String)
  /-- a text was written to the error output -/
  | complained (text : String)

namespace Event

def probedPort? : Event → Option Int
  | probed port _ => some port
  | _ => none

def drawStop? : Event → Option Nat
  | drew stop => some stop
  | _ => none

def isSocketStep : Event → Bool
  | socketCreated | socketBound _ _ | socketClosed => true
  | _ => false

def logRecord? : Event → Option LogRecord
  | logged record => some record
  | _ => none

def printedText? : Event → Option String
  | printed text => some text
  | _ => none

end Event

end ListenerPorts
