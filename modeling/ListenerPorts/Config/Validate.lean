import ListenerPorts.Config.Settings

set_option autoImplicit false

/-! # Validating a configuration

What keeps a configuration from being used, as a list of messages. The list is empty when the
configuration can be used. Only what its assignment needs is looked at.
-/

namespace ListenerPorts

namespace Configuration

def messageIf (b : Bool) (message : String) : List String := if b then [message] else []

/-- The messages about roles without a connector, each followed by the reason why it needs one. -/
def missingConnectors (server : Server) (reason : String) : List String :=
  messageIf server.application.isEmpty
    ("At least one application connector is required" ++ reason) ++
  messageIf server.admin.isEmpty ("At least one admin connector is required" ++ reason)

/-- The messages about the range. A fault that is no problem of the configuration is passed on. -/
def rangeErrors (settings : Settings) : Except Fault (List String) :=
  match settings.portRange with
  | .ok _ => .ok []
  | .error (.configuration p) => .ok [p.message]
  | .error f => .error f

def tlsErrors : Option TlsMaterial → List String
  | none => [Problem.message .tlsRequired]
  | some tls => tls.gaps.map ("tls: " ++ ·)

/-- What keeps the configuration from being used. -/
def validate (c : Configuration) : Except Fault (List String) :=
  if c.settings.useDynamic.isTrue then do
    let range ← rangeErrors c.settings
    let rest := if c.settings.useSecure.isTrue then tlsErrors c.settings.tls
      else missingConnectors c.server ""
    return range ++ rest
  else .ok (missingConnectors c.server " for static ports")

end Configuration

end ListenerPorts
