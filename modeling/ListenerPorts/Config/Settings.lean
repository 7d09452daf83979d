import ListenerPorts.Assigner.Basic
import ListenerPorts.PortRange.Checked
import ListenerPorts.Registry

set_option autoImplicit false

/-! # Settings

The settings that say whether and how the ports of a service are assigned, and the configuration
that they are part of. The settings hold values as they were given; what they ask for is read off
them when it is needed.
-/

namespace ListenerPorts

/-- Whether and how ports are assigned. -/
structure Settings where
  useDynamic : Value := .bool true
  useSecure : Value := .bool true
  minPort : Value := .int 1024
  maxPort : Value := .int highestPort
  finder : Value := .text Strategy.random.name
  tls : Option TlsMaterial := none

namespace Settings

def assignmentMode (s : Settings) : AssignmentMode := .ofSetting s.useDynamic

def securityMode (s : Settings) : SecurityMode := .ofSetting s.useSecure

def portRange (s : Settings) : Except Fault PortRange := PortRange.ofValues s.minPort s.maxPort

def createFinder (s : Settings) : Except Fault Finder := Registry.builtIn.create s.finder

/-- The assigner that the settings ask for. Range and finder are resolved only for dynamic ports,
so that a static configuration cannot fail on them. -/
def createAssigner (s : Settings) : Except Fault Assigner :=
  if s.useDynamic.isTrue then do
    let range ← s.portRange
    let finder ← s.createFinder
    return ⟨s.assignmentMode, s.securityMode, some range, s.tls, some finder.strategy⟩
  else .ok ⟨s.assignmentMode, s.securityMode, none, s.tls, none⟩

end Settings

/-- The configuration of a service: its listeners, and how their ports are assigned. -/
structure Configuration where
  server : Server := Server.default
  settings : Settings := {}

end ListenerPorts
