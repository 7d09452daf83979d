import ListenerPorts.Config.Settings
import ListenerPorts.Server.Ports

set_option autoImplicit false

/-! # The service

Assigns the ports of a configured service when it starts, and logs the ports it ends up with.
-/

namespace ListenerPorts

variable {σ : Type}

namespace Service

open Assignment

def portTexts (ports : List Port) : String := ", ".intercalate (ports.map Port.text)

/-- The message about the ports that a service ends up with. -/
def summary (useDynamic : Value) (application admin : List Port) : String :=
  "Dynamic ports? " ++ useDynamic.plain ++ " ; application port(s): [" ++ portTexts application ++
    "] / admin port(s): [" ++ portTexts admin ++ "]"

/-- Assigns the ports that the settings ask for, and logs those of the server afterwards. -/
def run (settings : Settings) (host : Host σ) : Assignment σ ServicePorts := do
  onWorld (Run.log .dynamicPorts .debug "Running dynamic port assignment")
  let assigner ← onWorld (Run.lift settings.createAssigner)
  let found ← assigner.assign host
  let server := (← get).server
  let application ← onWorld (server.ports .application)
  onWorld (Run.requireTexts (application.map (·.number)))
  let admin ← onWorld (server.ports .admin)
  onWorld (Run.requireTexts (admin.map (·.number)))
  onWorld (Run.requireTexts [settings.useDynamic])
  onWorld (Run.log .dynamicPorts .info (summary settings.useDynamic application admin))
  return found

end Service

end ListenerPorts
