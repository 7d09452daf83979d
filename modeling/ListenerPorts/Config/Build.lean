import ListenerPorts.Config.Settings

set_option autoImplicit false

/-! # Building a configuration

A configuration is built from the mapping that its text was read as. Everything is checked for its
shape; the ports of connectors are not, since any value may stand there. Null means the same as
nothing said, but not for the connectors of a role and their properties.
-/

namespace ListenerPorts

namespace Settings

def keys : List String :=
  ["use_dynamic_ports", "use_secure_dynamic_ports", "min_dynamic_port", "max_dynamic_port",
   "free_port_finder", "tls"]

/-- Fails unless the value under the name, if there is one, is a truth value. -/
def checkBool (es : Entries) (key shownName : String) : Except Fault Unit :=
  match es.get? key with
  | none | some (.bool _) => .ok ()
  | some v => fail (.notBool shownName v)

/-- The name that a finder setting gives: the setting itself, or the type in a mapping. -/
def finderName? : Value → Option Value
  | .map es => (Entries.get? es "type").filter (!·.isNull)
  | v => some v

/-- The finder setting to keep, given the one in the configuration: the finder must be registered,
and its name is kept in lower case. A mapping that names no finder is kept as it is. -/
def resolveFinder (v : Value) : Except Fault Value :=
  match finderName? v with
  | none => .ok v
  | some (.text name) => do
    discard (Registry.builtIn.create (.text name))
    return .text (Text.lower name)
  | some other => fail (.finderInvalid other)

/-- Fails unless a field that is set holds a text. -/
def checkTextField (es : Entries) (f : TlsField) : Except Fault Unit :=
  match es.get? f.name with
  | none | some (.text _) => .ok ()
  | some v => fail (.notText ("tls." ++ f.name) v)

/-- The list that a list field holds: a lone text stands for a list of one. -/
def listField (name : String) : Value → Except Fault Value
  | .text s => .ok (.list [.text s])
  | .list items =>
    if items.all Value.isText then .ok (.list items) else fail (.notTexts name (.list items))
  | v => fail (.notTexts name v)

/-- The value that a field gets: the list for a list field that is set, and otherwise the value
itself. -/
def fieldValue (es : Entries) (f : TlsField) : Except Fault Value :=
  match f.kind, es.get? f.name with
  | .texts, some v => listField ("tls." ++ f.name) v
  | _, some v => .ok v
  | _, none => .ok f.default

def buildTls : Value → Except Fault TlsMaterial
  | .map all => do
    Entries.checkKeys all "tls" TlsField.names
    let es := Entries.nonNull all
    TlsField.textFields.forM (checkTextField es)
    let protocols ← fieldValue es .supportedProtocols
    let ciphers ← fieldValue es .supportedCiphers
    checkBool es "disable_sni_host_check" "tls.disable_sni_host_check"
    return fun
      | .supportedProtocols => protocols
      | .supportedCiphers => ciphers
      | f => TlsMaterial.ofEntries es f
  | _ => fail .tlsNotMapping

def ofEntries (all : Entries) : Except Fault Settings := do
  all.checkKeys "dynamic_ports" keys
  let es := all.nonNull
  checkBool es "use_dynamic_ports" "dynamic_ports.use_dynamic_ports"
  checkBool es "use_secure_dynamic_ports" "dynamic_ports.use_secure_dynamic_ports"
  let base : Settings := {}
  let finder ← match es.get? "free_port_finder" with
    | none => pure base.finder
    | some v => resolveFinder v
  let tls ← match es.get? "tls" with
    | none => pure none
    | some v => some <$> buildTls v
  let value (key : String) (default : Value) : Value := (es.get? key).getD default
  return {
    useDynamic := value "use_dynamic_ports" base.useDynamic
    useSecure := value "use_secure_dynamic_ports" base.useSecure
    minPort := value "min_dynamic_port" base.minPort
    maxPort := value "max_dynamic_port" base.maxPort
    finder := finder
    tls := tls }

end Settings

namespace Server

/-- The key under which the connectors of a role stand. -/
def connectorsKey (role : Role) : String := role.name ++ "_connectors"

/-- The connectors of a role: those listed under its key, or the default without such a key. -/
def connectorsOf (es : Entries) (role : Role) : Except Fault (List Connector) :=
  match es.get? (connectorsKey role) with
  | none => .ok (defaultConnectors role)
  | some (.list items) => items.mapM Connector.ofValue
  | some _ => fail (.connectorsNotList role)

def ofEntries (es : Entries) : Except Fault Server := do
  let application ← connectorsOf es .application
  let admin ← connectorsOf es .admin
  return ⟨application, admin⟩

end Server

namespace Configuration

/-- The section of a mapping under a name, empty if it is absent or null. -/
def sectionOf (data : Entries) (name : String) : Except Fault Entries :=
  match data.get? name with
  | none | some .null => .ok []
  | some (.map es) => .ok es
  | some _ => fail (.sectionNotMapping name)

def ofEntries (data : Entries) : Except Fault Configuration := do
  let serverEntries ← sectionOf data "server"
  let settingsEntries ← sectionOf data "dynamic_ports"
  let server ← Server.ofEntries serverEntries
  let settings ← Settings.ofEntries settingsEntries
  return ⟨server, settings⟩

end Configuration

end ListenerPorts
