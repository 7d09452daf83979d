import ListenerPorts.Fault

set_option autoImplicit false

/-! # TLS material

The key store, trust store and protocol settings of an encrypted listener. The material gives a
value to each of a fixed set of fields. A field that was not set has its default, so the material
is a function of the field.
-/

namespace ListenerPorts

inductive TlsField where
  | keyStorePath
  | keyStorePassword
  | trustStorePath
  | trustStorePassword
  | supportedProtocols
  | keyStoreType
  | keyStoreProvider
  | trustStoreType
  | trustStoreProvider
  | jceProvider
  | certAlias
  | supportedCiphers
  | disableSniHostCheck
deriving DecidableEq, Repr

inductive TlsFieldKind where
  | text
  | texts
  | flag
deriving DecidableEq, Repr

namespace TlsField

/-- All fields, the required ones first. -/
def all : List TlsField :=
  [keyStorePath, keyStorePassword, trustStorePath, trustStorePassword, supportedProtocols,
   keyStoreType, keyStoreProvider, trustStoreType, trustStoreProvider, jceProvider, certAlias,
   supportedCiphers, disableSniHostCheck]

theorem mem_all (f : TlsField) : f ∈ all := by cases f <;> simp [all]

def name : TlsField → String
  | keyStorePath => "key_store_path"
  | keyStorePassword => "key_store_password"
  | trustStorePath => "trust_store_path"
  | trustStorePassword => "trust_store_password"
  | supportedProtocols => "supported_protocols"
  | keyStoreType => "key_store_type"
  | keyStoreProvider => "key_store_provider"
  | trustStoreType => "trust_store_type"
  | trustStoreProvider => "trust_store_provider"
  | jceProvider => "jce_provider"
  | certAlias => "cert_alias"
  | supportedCiphers => "supported_ciphers"
  | disableSniHostCheck => "disable_sni_host_check"

def names : List String := all.map name

def kind : TlsField → TlsFieldKind
  | supportedProtocols | supportedCiphers => .texts
  | disableSniHostCheck => .flag
  | _ => .text

def default : TlsField → Value
  | keyStoreType | trustStoreType => .text "JKS"
  | disableSniHostCheck => .bool false
  | _ => .null

/-- The fields that hold one text, in the order in which they are checked. -/
def textFields : List TlsField :=
  [keyStorePath, keyStorePassword, keyStoreType, keyStoreProvider, trustStorePath,
   trustStorePassword, trustStoreType, trustStoreProvider, jceProvider, certAlias]

theorem mem_textFields (f : TlsField) : f ∈ textFields ↔ f.kind = .text := by
  cases f <;> simp [textFields, kind]

end TlsField

/-- TLS material: a value for each field. -/
abbrev TlsMaterial := TlsField → Value

namespace TlsMaterial

/-- The material in which only the given entries are set. -/
def ofEntries (es : Entries) : TlsMaterial := fun f => (es.get? f.name).getD f.default

/-- The material with the given fields, each with any value. -/
def ofFields (es : Entries) : Except Fault TlsMaterial :=
  if es.all fun e => e.1.asText?.any TlsField.names.contains then .ok (ofEntries es)
  else .error .noSuchSetting

/-- Whether the value is no text, or a text of blanks only. -/
def isBlank : Value → Bool
  | .text s => Text.allBlank s
  | _ => true

/-- Whether a required field is missing: a path has to name something, a password only has to be a
text. -/
def missing (tls : TlsMaterial) : TlsField → Bool
  | .keyStorePath => isBlank (tls .keyStorePath)
  | .trustStorePath => isBlank (tls .trustStorePath)
  | .keyStorePassword => !(tls .keyStorePassword).isText
  | .trustStorePassword => !(tls .trustStorePassword).isText
  | _ => false

/-- What the material lacks for starting a listener. -/
def gaps (tls : TlsMaterial) : List String :=
  (TlsField.all.filter (missing tls)).map fun f => f.name ++ " is required"

end TlsMaterial

end ListenerPorts
