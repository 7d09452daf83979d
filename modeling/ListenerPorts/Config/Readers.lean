import ListenerPorts.Config.Text
import ListenerPorts.Json.Reader
import ListenerPorts.Yaml.Reader

set_option autoImplicit false

/-! # The readers of the program

The readers that the program is run with. What is proved about configurations holds of any readers,
so nothing depends on how these ones read.
-/

namespace ListenerPorts.Readers

/-- How deep lists and objects may lie in a JSON text. -/
def levels : Nat := 980

def standard : Readers := ⟨Json.read levels, Yaml.read⟩

end ListenerPorts.Readers
