import ListenerPorts.Search.Pair
import ListenerPorts.Server.Basic

set_option autoImplicit false

/-! # Assigning ports

An assigner gives the connectors of a server their ports. With a static mode it reports the ports
that are configured. With a dynamic mode it first checks what it needs, then searches, and only then
writes: in secure mode it replaces the connectors of each role by one new encrypted connector, in
non-secure mode it sets the port of the first connector of each role. The server is part of the
state on which an assignment works, so that what a failed assignment leaves behind can be told.
-/

namespace ListenerPorts

variable {σ : Type}

/-- Whether configured ports are kept or replaced by found ones. -/
inductive AssignmentMode where
  | static
  | dynamic
deriving DecidableEq, Repr

namespace AssignmentMode

def name : AssignmentMode → String
  | static => "static"
  | dynamic => "dynamic"

/-- The mode that a setting asks for: any value that counts as true means dynamic ports. -/
def ofSetting (v : Value) : AssignmentMode := if v.isTrue then dynamic else static

end AssignmentMode

/-- Whether found ports are for encrypted listeners. -/
inductive SecurityMode where
  | secure
  | nonSecure
deriving DecidableEq, Repr

namespace SecurityMode

def name : SecurityMode → String
  | secure => "secure"
  | nonSecure => "non_secure"

def ofSetting (v : Value) : SecurityMode := if v.isTrue then secure else nonSecure

end SecurityMode

/-- How ports are to be assigned. Without a finder the ports are drawn at random. -/
structure Assigner where
  mode : AssignmentMode := .dynamic
  security : SecurityMode := .secure
  range : Option PortRange := none
  tls : Option TlsMaterial := none
  finder : Option Strategy := none

/-- The state on which an assignment works. -/
structure Site (σ : Type) where
  server : Server
  world : World σ

/-- An operation that may change the server. -/
abbrev Assignment (σ α : Type) := EStateM Fault (Site σ) α

namespace Assignment

/-- An operation that leaves the server alone. -/
def onWorld {α : Type} (x : Run σ α) : Assignment σ α := fun s =>
  match x s.world with
  | .ok a w => .ok a { s with world := w }
  | .error f w => .error f { s with world := w }

def setConnectors (role : Role) (cs : List Connector) : Assignment σ Unit :=
  modify fun s => { s with server := s.server.set role cs }

def failWith {α : Type} (p : Problem) : Assignment σ α := throw (.of p)

@[simp] theorem run_setConnectors (role : Role) (cs : List Connector) (s : Site σ) :
    EStateM.run (setConnectors role cs) s = .ok () { s with server := s.server.set role cs } := rfl

end Assignment

namespace Assigner

open Assignment

/-- A free port that is not among the used ones, zero without a range. -/
def findFreePort (a : Assigner) (host : Host σ) (used : List Int) : Run σ Nat :=
  match a.range with
  | none => pure 0
  | some range => Search.randomPort host range used

/-- The ports for both roles: by the finder if there is one, otherwise two drawn at random. -/
def findPorts (a : Assigner) (host : Host σ) : Run σ (ByRole Nat) :=
  match a.range, a.finder with
  | none, _ => pure systemChosen
  | some range, some strategy => strategy.find host (some range)
  | some _, none => do
    let application ← a.findFreePort host []
    let admin ← a.findFreePort host [application]
    return ⟨application, admin⟩

/-- The TLS material, if it is there and complete. -/
def requireTls (a : Assigner) : Except Fault TlsMaterial :=
  match a.tls with
  | none => fail .tlsRequired
  | some tls => if tls.gaps.isEmpty then .ok tls else fail (.tlsIncomplete tls.gaps)

/-- Assigns found ports to one new encrypted connector in each role. -/
def assignSecure (a : Assigner) (host : Host σ) : Assignment σ ServicePorts := do
  let tls ← onWorld (Run.lift a.requireTls)
  onWorld (Run.log .portAssigner .debug
    "Replacing app/admin connectors with HTTPS ones using dynamic ports")
  let found ← onWorld (a.findPorts host)
  let application ← onWorld (Run.lift (Connector.ofTls (.int found.application) tls))
  setConnectors .application [application]
  let admin ← onWorld (Run.lift (Connector.ofTls (.int found.admin) tls))
  setConnectors .admin [admin]
  onWorld (Run.log .portAssigner .info
    ("Assigned secure application port " ++ toString found.application ++ " and admin port " ++
      toString found.admin ++ " to new HTTPS connectors"))
  return found.map fun (p : Nat) => .int p

/-- Assigns found ports to the first connector of each role. -/
def assignPlain (a : Assigner) (host : Host σ) : Assignment σ ServicePorts := do
  let server := (← get).server
  if server.application.isEmpty then failWith (.connectorMissing .application)
  if server.admin.isEmpty then failWith (.connectorMissing .admin)
  onWorld (Run.log .portAssigner .debug
    "Modifying existing app/admin connectors using dynamic ports")
  let found ← onWorld (a.findPorts host)
  setConnectors .application (Server.setFirstPort (.int found.application) server.application)
  setConnectors .admin (Server.setFirstPort (.int found.admin) server.admin)
  onWorld (Run.log .portAssigner .info
    ("Assigned application port " ++ toString found.application ++ " and admin port " ++
      toString found.admin ++ " to existing connectors"))
  return found.map fun (p : Nat) => .int p

/-- Reports the configured ports and changes nothing. -/
def keepConfigured : Assignment σ ServicePorts := do
  onWorld (Run.log .portAssigner .info
    "Static port assignment is being used, relying on configured connectors")
  let server := (← get).server
  return ⟨server.firstPort .application, server.firstPort .admin⟩

/-- Assigns the ports of a server and returns those it is configured with afterwards. -/
def assign (a : Assigner) (host : Host σ) : Assignment σ ServicePorts :=
  match a.mode, a.security with
  | .static, _ => keepConfigured
  | .dynamic, .secure => a.assignSecure host
  | .dynamic, .nonSecure => a.assignPlain host

end Assigner

end ListenerPorts
