import ListenerPorts.Connector
import ListenerPorts.Role

set_option autoImplicit false

/-! # Servers

The listeners of a service: a list of connectors for each role. A service that says nothing about a
role has one plain connector there.
-/

namespace ListenerPorts

abbrev Server := ByRole (List Connector)

/-- The ports found for a service, one for each role. -/
abbrev ServicePorts := ByRole Value

/-- The port that a role listens on if nothing else is said. -/
def Role.defaultPort : Role → Nat
  | .application => 8080
  | .admin => 8081

namespace Server

/-- The connectors that a role has if nothing else is said. -/
def defaultConnectors (role : Role) : List Connector :=
  [.http (Connector.freshListener (.int role.defaultPort))]

def default : Server := ⟨defaultConnectors .application, defaultConnectors .admin⟩

/-- The port of the first connector of a role, zero if there is none. -/
def firstPort (server : Server) (role : Role) : Value :=
  match server.get role with
  | [] => .int 0
  | c :: _ => c.port

/-- The connectors with the port of the first one set. -/
def setFirstPort (port : Value) : List Connector → List Connector
  | [] => []
  | c :: cs => c.setPort port :: cs

end Server

end ListenerPorts
