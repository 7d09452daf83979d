import ListenerPorts.Config.Build

set_option autoImplicit false

/-! # The shape of a configuration

Which values describe finders, TLS material, settings, connectors and servers, and which mappings
describe configurations. The shape is said entry by entry and without regard to the order in which
anything is looked at. Null is as good as nothing for sections, settings and TLS fields, but not for
the connectors of a role, nor for the type of a connector.
-/

namespace ListenerPorts

namespace Shape

/-- A truth value, or nothing. -/
def IsFlag (v : Value) : Prop := v = .null ∨ ∃ b, v = .bool b

/-- A text, or nothing. -/
def IsOneText (v : Value) : Prop := v = .null ∨ ∃ s, v = .text s

/-- A text, a list of texts, or nothing. -/
def IsTexts (v : Value) : Prop :=
  IsOneText v ∨ ∃ items, v = .list items ∧ ∀ item ∈ items, ∃ s, item = .text s

/-- What a TLS field of a kind may be set to. -/
def Fits : TlsFieldKind → Value → Prop
  | .text => IsOneText
  | .texts => IsTexts
  | .flag => IsFlag

/-- A name that asks for a finder: the empty one, or the name of a strategy up to letter case and
the blanks around it. -/
def IsFinderName (name : String) : Prop :=
  name = "" ∨ ∃ strategy : Strategy, Text.lower (Text.trim name) = strategy.name

/-- A name that asks for a finder, or a mapping whose type is such a name or nothing. -/
def IsFinder (v : Value) : Prop :=
  v = .null ∨ (∃ name, v = .text name ∧ IsFinderName name) ∨
    ∃ es, v = .map es ∧
      ∀ w, (.text "type", w) ∈ es → w = .null ∨ ∃ name, w = .text name ∧ IsFinderName name

/-- A mapping of TLS fields to values that fit them, or nothing. -/
def IsTls (v : Value) : Prop :=
  v = .null ∨ ∃ es, v = .map es ∧
    ∀ k w, (k, w) ∈ es → ∃ f : TlsField, k = .text f.name ∧ Fits f.kind w

/-- A value that suits the setting of a name. Any value suits the ends of the range. -/
def IsSetting (name : String) (v : Value) : Prop :=
  name ∈ Settings.keys ∧
    (name = "use_dynamic_ports" ∨ name = "use_secure_dynamic_ports" → IsFlag v) ∧
    (name = "free_port_finder" → IsFinder v) ∧ (name = "tls" → IsTls v)

/-- Every entry is a setting with a value that suits it. -/
def HasSettings (es : Entries) : Prop :=
  ∀ k w, (k, w) ∈ es → ∃ name, k = .text name ∧ IsSetting name w

/-- The type in a mapping is the name of the scheme in any letter case; without a type the scheme is
the plain one. -/
def HasScheme (es : Entries) (scheme : Scheme) : Prop :=
  (scheme = .http ∧ ∀ w, (.text "type", w) ∉ es) ∨
    ∃ s, (.text "type", .text s) ∈ es ∧ Text.lower s = scheme.name

/-- A mapping of a type and properties that connectors of this type have. -/
def IsConnector (v : Value) : Prop :=
  ∃ es scheme, v = .map es ∧ HasScheme es scheme ∧
    ∀ k w, (k, w) ∈ es → k = .text "type" ∨ ∃ name ∈ scheme.propertyNames, k = .text name

/-- Each role that has an entry has a list of connectors. -/
def HasConnectors (es : Entries) : Prop :=
  ∀ (role : Role) (w : Value), (.text (Server.connectorsKey role), w) ∈ es →
    ∃ items, w = .list items ∧ ∀ item ∈ items, IsConnector item

/-- The section under the name is nothing, or a mapping that has the property. -/
def SectionHas (data : Entries) (name : String) (R : Entries → Prop) : Prop :=
  ∀ v, (.text name, v) ∈ data → v = .null ∨ ∃ es, v = .map es ∧ R es

/-- A mapping whose two sections have their shape. It may have other entries. -/
def IsConfiguration (data : Entries) : Prop :=
  SectionHas data "server" HasConnectors ∧ SectionHas data "dynamic_ports" HasSettings

def HasTextKeys (es : Entries) : Prop := ∀ e ∈ es, e.1.isText = true

/-- The keys are texts in those mappings of a configuration that may only have certain keys. -/
structure TextKeyed (data : Entries) : Prop where
  settings : ∀ es, (.text "dynamic_ports", .map es) ∈ data → HasTextKeys es
  tls : ∀ es tls, (.text "dynamic_ports", .map es) ∈ data → (.text "tls", .map tls) ∈ es →
    HasTextKeys tls
  connectors : ∀ es role items entries, (.text "server", .map es) ∈ data →
    (.text (Server.connectorsKey role), .list items) ∈ es → .map entries ∈ items →
    HasTextKeys entries

end Shape

end ListenerPorts
