import ListenerPorts.Config.Settings
import ListenerPorts.Files.Path

set_option autoImplicit false

/-! # The text of a configuration

The suffix of a path, in any letter case, says how a text at that path is to be read. A text without
a value is an empty configuration. What the readers of the two formats make of a text is not settled
here: they are given from outside.
-/

namespace ListenerPorts

/-- A form that the text of a configuration may have. -/
inductive Format where
  | json
  | yaml
deriving DecidableEq, Repr

namespace Format

/-- The format for a suffix in lower case. -/
def ofSuffix? (suffix : String) : Option Format :=
  if suffix = ".json" then some json
  else if suffix = ".yaml" ∨ suffix = ".yml" then some yaml
  else none

def problem : Format → String → Problem
  | json => .notJson
  | yaml => .notYaml

end Format

structure Readers where
  json : Reader
  yaml : Reader

namespace Readers

def reader (readers : Readers) : Format → Reader
  | .json => readers.json
  | .yaml => readers.yaml

/-- The value that a text in a format stands for. That a text is not in the format is a problem of
the configuration; any other failure of the reader is passed on. -/
def read (readers : Readers) (format : Format) (text : String) : Except Fault Value :=
  match readers.reader format text with
  | .ok v => .ok v
  | .error (.malformed detail) => fail (format.problem detail)
  | .error (.failed f) => .error f

end Readers

namespace Configuration

/-- The value of a text at a path. -/
def readValue (readers : Readers) (text : String) (path : Path) : Except Fault Value :=
  let suffix := Text.lower path.suffix
  match Format.ofSuffix? suffix with
  | some format => readers.read format text
  | none => fail (.formatUnsupported suffix)

/-- The mapping that a text at a path stands for. -/
def parse (readers : Readers) (text : String) (path : Path) : Except Fault Entries := do
  match ← readValue readers text path with
  | .null => return []
  | .map es => return es
  | _ => fail .topNotMapping

end Configuration

end ListenerPorts
