import ListenerPorts.Fault
import ListenerPorts.Text.Sorted

set_option autoImplicit false

/-! # Known and unknown keys

A mapping that describes one thing may only have the keys of that thing. The keys it should not
have are listed in order, which is possible only if all of them are texts.
-/

namespace ListenerPorts

namespace Entries

def unknownKeys (es : Entries) (known : List String) : List Value :=
  (es.map (·.1)).filter fun k => !(k.asText?.any known.contains)

/-- Fails unless every key is one of the known names. -/
def checkKeys (es : Entries) (owner : String) (known : List String) : Except Fault Unit :=
  let unknown := es.unknownKeys known
  if unknown.isEmpty then .ok ()
  else if unknown.all Value.isText then
    fail (.propertiesUnknown owner (Text.sortNames (unknown.filterMap Value.asText?)))
  else .error .keysNotTexts

def nonNull (es : Entries) : Entries := es.filter fun e => !e.2.isNull

end Entries

end ListenerPorts
