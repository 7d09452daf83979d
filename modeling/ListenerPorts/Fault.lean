import ListenerPorts.PortRange.Basic
import ListenerPorts.Role
import ListenerPorts.Strategy
import ListenerPorts.Value.Text

set_option autoImplicit false

/-! # Faults

Why an operation fails. A `Problem` is something that is wrong with a configuration, told to its
author in a message; a `Fault` is any reason for which an operation ends without a result. Each is
named for its cause, and its wording is given in one place. A `Rejection` is what a reader of a
format answers in place of a value.
-/

namespace ListenerPorts

/-- What can be wrong with a configuration. -/
inductive Problem where
  /-- an end of the range is not an integer -/
  | rangeNotIntegers (min max : Value)
  | rangeNotAscending (min max : Int)
  | minOutOfBounds (min : Int)
  | maxOutOfBounds (max : Int)
  /-- a search in ascending order was asked for without a range -/
  | rangeRequired
  | finderUnnamed (label : String)
  | finderUnknown (name : String) (known : List String)
  | connectorNotMapping (data : Value)
  | connectorTypeUnknown (type : String)
  | propertiesUnknown (owner : String) (names : List String)
  | portNotSingle (role : Role) (count : Nat)
  | serverRequired
  | tlsRequired
  | tlsIncomplete (gaps : List String)
  | connectorMissing (role : Role)
  /-- the text is no JSON, or no YAML -/
  | notJson (detail : String)
  | notYaml (detail : String)
  | formatUnsupported (suffix : String)
  | topNotMapping
  | sectionNotMapping (name : String)
  | connectorsNotList (role : Role)
  | notBool (name : String) (value : Value)
  | finderInvalid (value : Value)
  | tlsNotMapping
  | notText (name : String) (value : Value)
  | notTexts (name : String) (value : Value)

namespace Problem

/-- The values that the message shows. -/
def shown : Problem → List Value
  | rangeNotIntegers min max => [min, max]
  | rangeNotAscending min max => [.int min, .int max]
  | minOutOfBounds n | maxOutOfBounds n => [.int n]
  | connectorNotMapping v | notBool _ v | finderInvalid v | notText _ v | notTexts _ v => [v]
  | _ => []

def message : Problem → String
  | rangeNotIntegers min max =>
    "min_port and max_port must be integers (was: " ++ min.quoted ++ " -> " ++ max.quoted ++ ")"
  | rangeNotAscending min max =>
    s!"min_port must be less than max_port (was: {min} -> {max})"
  | minOutOfBounds n => s!"min_port must be between 1 and 65534 (was: {n})"
  | maxOutOfBounds n => s!"max_port must be between 2 and 65535 (was: {n})"
  | rangeRequired => "port_range must not be None"
  | finderUnnamed label => label ++ " does not define a finder name"
  | finderUnknown name known =>
    "Unknown free port finder '" ++ name ++ "'. Must be one of: " ++ ", ".intercalate known
  | connectorNotMapping data => "Invalid connector configuration: " ++ data.quoted
  | connectorTypeUnknown type =>
    "Unknown connector type '" ++ type ++ "'. Must be one of: http, https"
  | propertiesUnknown owner names =>
    "Unknown " ++ owner ++ " properties: " ++ ", ".intercalate names
  | portNotSingle role count =>
    "expected only one " ++ role.name ++ " port but found " ++ toString count
  | serverRequired => "server_config is required"
  | tlsRequired => "TLS configuration is required when assigning secure dynamic ports"
  | tlsIncomplete gaps => "TLS configuration is incomplete: " ++ "; ".intercalate gaps
  | connectorMissing role =>
    "No " ++ role.name ++ " connector is configured to assign a port to"
  | notJson detail => "Invalid JSON format: " ++ detail
  | notYaml detail => "Invalid YAML format: " ++ detail
  | formatUnsupported suffix => "Unsupported file format: " ++ suffix
  | topNotMapping => "Configuration must be a mapping at the top level"
  | sectionNotMapping name => "'" ++ name ++ "' section must be a mapping"
  | connectorsNotList role => "'" ++ role.name ++ "_connectors' must be a list of connectors"
  | notBool name value => name ++ " must be true or false (was: " ++ value.quoted ++ ")"
  | finderInvalid value => "Invalid free_port_finder: " ++ value.quoted
  | tlsNotMapping => "'tls' must be a mapping"
  | notText name value => name ++ " must be a string (was: " ++ value.quoted ++ ")"
  | notTexts name value =>
    name ++ " must be a string or a list of strings (was: " ++ value.quoted ++ ")"

end Problem

/-- What the socket layer reports when it refuses a step. -/
inductive SocketRefusal where
  /-- the operating system refuses -/
  | system
  /-- the port does not fit the layer's number type -/
  | overflow
  /-- any other failure -/
  | other
deriving DecidableEq, Repr

/-- Why an operation ends without a result. -/
inductive Fault where
  | configuration (problem : Problem)
  /-- a search ended without two free ports -/
  | exhausted (strategy : Strategy) (range : PortRange)
  | noSuchFile (name : String) (searched : List String)
  /-- unknown property keys that are not all texts, so that they cannot be listed -/
  | keysNotTexts
  /-- a comparison of a value that is not a number with numbers -/
  | notComparable
  /-- a list was needed and the value has no items -/
  | notIterable
  /-- a TLS setting that does not exist -/
  | noSuchSetting
  /-- a value that the output format has no form for -/
  | notEncodable
  /-- a finder was named by something that is not a text -/
  | nameNotText
  /-- something that an operation works on was not given -/
  | notGiven
  /-- an integer has more digits than a text may have -/
  | tooManyDigits
  /-- a scalar has the form of a type but stands for no value of it -/
  | scalarUnreadable
  /-- an integer without digits -/
  | integerEmpty
  /-- a word that is neither true nor false -/
  | notTruthWord
  /-- a number is larger than a step can take -/
  | overflow
  /-- data is nested more deeply than a reader follows -/
  | tooDeep
  /-- a text escapes half of a character, for which texts have no place -/
  | halfCharacter
  /-- the operating system refuses to look at a path or to read a file -/
  | fileRefused
  /-- the bytes of a file are no text -/
  | notUnicode
  /-- the probe itself failed -/
  | probeFailed
  /-- the socket layer failed in a way that says nothing about the port -/
  | socketFailed
  /-- something outside failed for a reason that is only known there -/
  | other (reason : String)

namespace Fault

/-- The fault of a problem. Its message is written at once, so that a number without a text in it
is what fails. -/
def of (p : Problem) : Fault :=
  if p.shown.all Value.writable then .configuration p else .tooManyDigits

/-- The attempts after which a search gave up, for the strategy that counts them. -/
def attempts? : Strategy → PortRange → Option Nat
  | .random, range => some range.maxAttempts
  | _, _ => none

def exhaustedMessage (strategy : Strategy) (range : PortRange) : String :=
  let ends := toString range.min ++ " and " ++ toString range.max
  match strategy with
  | .random => "Could not find an available port between " ++ ends ++ " after " ++
      toString range.maxAttempts ++ " attempts. I give up."
  | .incrementing => "Could not find two open ports between " ++ ends
  | .adjacent => "Could not find two adjacent open ports between " ++ ends

/-- The message about a fault that concerns the configuration or the state of the host; the other
faults are defects in the data that have no message of their own. -/
def message? : Fault → Option String
  | .configuration p => some p.message
  | .exhausted strategy range => some (exhaustedMessage strategy range)
  | .noSuchFile name searched => some ("Configuration file '" ++ name ++ "' not found in: " ++
      ", ".intercalate searched)
  | _ => none

end Fault

def fail {α : Type} (p : Problem) : Except Fault α := .error (.of p)

/-- Why a reader of a format has no value for a text. -/
inductive Rejection where
  /-- the text is not in the format -/
  | malformed (detail : String)
  /-- the reader itself failed -/
  | failed (fault : Fault)

abbrev Reader := String → Except Rejection Value

end ListenerPorts
