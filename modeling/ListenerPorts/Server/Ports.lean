import ListenerPorts.Server.Basic
import ListenerPorts.World.Basic

set_option autoImplicit false

/-! # The ports of a server

The ports that a role listens on, at most one for each scheme. When several connectors of a role
have one scheme, the last of them counts, and every connector that is passed over is logged.
-/

namespace ListenerPorts

variable {σ : Type}

inductive PortSecurity where
  | secure
  | notSecure
deriving DecidableEq, Repr

namespace PortSecurity

def name : PortSecurity → String
  | secure => "secure"
  | notSecure => "not_secure"

def ofSchemeName (scheme : String) : PortSecurity :=
  if Text.lower scheme = "https" then secure else notSecure

def ofScheme : Scheme → PortSecurity
  | .http => notSecure
  | .https => secure

end PortSecurity

/-- A port of a server, with its role and security. -/
structure Port where
  number : Value
  role : Role
  security : PortSecurity

def Port.text (p : Port) : String := p.number.plain ++ " (" ++ p.security.name ++ ")"

/-- The connector of each scheme that counts. -/
structure ByScheme where
  http : Option Connector
  https : Option Connector

namespace ByScheme

def empty : ByScheme := ⟨none, none⟩

def get (s : ByScheme) : Scheme → Option Connector
  | .http => s.http
  | .https => s.https

def put (s : ByScheme) (c : Connector) : ByScheme :=
  match c.scheme with
  | .http => { s with http := some c }
  | .https => { s with https := some c }

/-- The message about a connector that is passed over for a later one of its scheme. -/
def discardMessage (kept discarded : Connector) : String :=
  "More than one " ++ kept.scheme.name ++ " connector is configured. Using the one with port " ++
    kept.port.plain ++ ", discarding the one with port " ++ discarded.port.plain

/-- Takes the connectors in order, each replacing the one before it of its scheme. -/
def collect : ByScheme → List Connector → Run σ ByScheme
  | s, [] => return s
  | s, c :: cs => do
    if let some discarded := s.get c.scheme then
      Run.requireTexts [c.port, discarded.port]
      Run.log .connectors .warning (discardMessage c discarded)
    collect (s.put c) cs

end ByScheme

namespace Server

/-- The ports of a role: the plain one and then the encrypted one, as far as there are any. -/
def ports (server : Server) (role : Role) : Run σ (List Port) := do
  let s ← ByScheme.collect .empty (server.get role)
  return [Scheme.http, .https].filterMap fun scheme =>
    (s.get scheme).map fun c => ⟨c.port, role, .ofScheme scheme⟩

/-- The ports of both roles, those of the application first. -/
def allPorts (server : Server) : Run σ (List Port) := do
  let application ← server.ports .application
  let admin ← server.ports .admin
  return application ++ admin

/-- The port of a role that has no other. -/
def onlyPort (server : Server) (role : Role) : Run σ Port := do
  match ← server.ports role with
  | [port] => return port
  | ports => Run.lift (fail (.portNotSingle role ports.length))

end Server

end ListenerPorts
