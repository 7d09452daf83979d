import ListenerPorts.Text.Lowercase
import ListenerPorts.Tls
import ListenerPorts.Value.Keys

set_option autoImplicit false

/-! # Connectors

A connector describes one listener of a service, in the clear or encrypted. Its fields hold
whatever the configuration gave them; a field that was not given has its default.
-/

namespace ListenerPorts

inductive ListenerField where
  | port
  | bindHost
  | idleTimeout
deriving DecidableEq, Repr

namespace ListenerField

def all : List ListenerField := [port, bindHost, idleTimeout]

theorem mem_all (f : ListenerField) : f ∈ all := by cases f <;> simp [all]

def name : ListenerField → String
  | port => "port"
  | bindHost => "bind_host"
  | idleTimeout => "idle_timeout"

def default : ListenerField → Value
  | port => .int 8080
  | bindHost => .null
  | idleTimeout => .float 30

end ListenerField

/-- The name of a TLS field as a property of a connector. -/
def TlsField.propertyName : TlsField → String
  | .supportedCiphers => "supported_cipher_suites"
  | f => f.name

/-- How a listener speaks. -/
inductive Scheme where
  | http
  | https
deriving DecidableEq, Repr

namespace Scheme

def name : Scheme → String
  | http => "http"
  | https => "https"

def ofName? (s : String) : Option Scheme :=
  if s = "http" then some http else if s = "https" then some https else none

/-- The property names that a connector of the scheme may have. -/
def propertyNames : Scheme → List String
  | http => ListenerField.all.map ListenerField.name
  | https => ListenerField.all.map ListenerField.name ++ TlsField.all.map TlsField.propertyName

end Scheme

/-- A listener: in the clear, or with the TLS fields it encrypts by. -/
inductive Connector where
  | http (listener : ListenerField → Value)
  | https (listener : ListenerField → Value) (tls : TlsField → Value)

namespace Connector

def scheme : Connector → Scheme
  | http _ => .http
  | https _ _ => .https

def listener : Connector → ListenerField → Value
  | http l | https l _ => l

def port (c : Connector) : Value := c.listener .port

def portSet (l : ListenerField → Value) (port : Value) : ListenerField → Value
  | .port => port
  | f => l f

def setPort (port : Value) : Connector → Connector
  | http l => http (portSet l port)
  | https l tls => https (portSet l port) tls

@[simp] theorem port_setPort (p : Value) (c : Connector) : (c.setPort p).port = p := by
  cases c <;> rfl

@[simp] theorem scheme_setPort (p : Value) (c : Connector) : (c.setPort p).scheme = c.scheme := by
  cases c <;> rfl

def properties : Connector → List (String × Value)
  | http l => ListenerField.all.map fun f => (f.name, l f)
  | https l tls => (ListenerField.all.map fun f => (f.name, l f)) ++
      TlsField.all.map fun f => (f.propertyName, tls f)

def listenerOf (es : Entries) : ListenerField → Value := fun f => (es.get? f.name).getD f.default

def tlsOf (es : Entries) : TlsField → Value := fun f => (es.get? f.propertyName).getD f.default

/-- The connector of a scheme with the given properties. -/
def ofProperties : Scheme → Entries → Connector
  | .http, es => http (listenerOf es)
  | .https, es => https (listenerOf es) (tlsOf es)

/-- The name of the type that a mapping gives itself, in lower case. -/
def typeName (es : Entries) : Except Fault String :=
  match es.get? "type" with
  | none => .ok "http"
  | some v => if v.writable then .ok (Text.lower v.plain) else .error .tooManyDigits

/-- The connector that a mapping describes by its type and properties. -/
def ofEntries (es : Entries) : Except Fault Connector := do
  let type ← typeName es
  let properties := es.without "type"
  match Scheme.ofName? type with
  | none => fail (.connectorTypeUnknown type)
  | some scheme =>
    properties.checkKeys (type ++ " connector") scheme.propertyNames
    return ofProperties scheme properties

def ofValue : Value → Except Fault Connector
  | .map es => ofEntries es
  | v => fail (.connectorNotMapping v)

/-- A list of its own for a connector: nothing for an empty value, a list of one for a lone text,
and otherwise the items. -/
def ownList (v : Value) : Except Fault Value :=
  if v.isTrue then
    match v with
    | .text s => .ok (.list [.text s])
    | .list items => .ok (.list items)
    | .map es => .ok (.list (es.map (·.1)))
    | _ => .error .notIterable
  else .ok .null

def freshListener (port : Value) : ListenerField → Value := portSet ListenerField.default port

/-- A new encrypted connector on a port with all of the TLS material. -/
def ofTls (port : Value) (tls : TlsMaterial) : Except Fault Connector := do
  let protocols ← ownList (tls .supportedProtocols)
  let ciphers ← ownList (tls .supportedCiphers)
  return https (freshListener port) fun
    | .supportedProtocols => protocols
    | .supportedCiphers => ciphers
    | f => tls f

end Connector

end ListenerPorts
