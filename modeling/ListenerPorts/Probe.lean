import ListenerPorts.PortRange.Checked
import ListenerPorts.World.Basic

set_option autoImplicit false

/-! # Probes

A probe tells whether a port can be bound at the moment. It either answers from some memory of its
own, or tries the port out at the socket layer: it creates a socket, binds it and closes it again.
The memory may change with every question, so two answers about one port may differ.
-/

namespace ListenerPorts

variable {σ : Type}

structure SocketFailure where
  refusal : SocketRefusal
  message : String

/-- The steps of the socket layer that can be refused. -/
structure SocketLayer (σ : Type) where
  create : σ → Option SocketFailure × σ
  bind : String → Value → σ → Option SocketFailure × σ

/-- A way to find out whether a port is free. -/
inductive Probe (σ : Type) where
  /-- answers from its memory -/
  | answering (ask : Int → σ → Except Fault Bool × σ)
  /-- binds the port on a host address -/
  | binding (host : String) (layer : SocketLayer σ)

/-- What the operations find on the machine they run on: a probe and a stream of random numbers. -/
structure Host (σ : Type) where
  probe : Probe σ
  random : Nat → Int

/-- A step at the socket layer, which its memory may refuse. -/
def socketStep (step : σ → Option SocketFailure × σ) : Run σ (Option SocketFailure) :=
  modifyGet fun w => ((step w.memory).1, { w with memory := (step w.memory).2 })

/-- Creates a socket, binds it to the port and closes it, as far as the layer lets it. A socket that
was created is closed whether or not it could be bound. -/
def tryBinding (host : String) (layer : SocketLayer σ) (port : Value) :
    Run σ (Option SocketFailure) := do
  Run.emit .socketCreated
  match ← socketStep layer.create with
  | some failure => return some failure
  | none =>
    Run.emit (.socketBound host port)
    let failure? ← socketStep (layer.bind host port)
    Run.emit .socketClosed
    return failure?

/-- Whether a port can be bound on a host address. A port outside the range of ports cannot, and is
not tried. A refusal of the system and a port too large for the layer mean no; any other failure is
not an answer. -/
def canBind (host : String) (layer : SocketLayer σ) (port : Value) : Run σ Bool := do
  if ← Run.lift (port.between 1 highestPort) then
    match ← tryBinding host layer port with
    | none => return true
    | some failure =>
      if failure.refusal = .other then throw .socketFailed
      else
        Run.log .portProbe .debug
          ("Port " ++ port.plain ++ " is not available: " ++ failure.message)
        return false
  else
    Run.requireTexts [port]
    Run.log .portProbe .debug ("Port " ++ port.plain ++ " is outside the TCP port range")
    return false

def Probe.answer (probe : Probe σ) (port : Int) : Run σ Bool :=
  match probe with
  | .answering ask => do
    Run.lift (← modifyGet fun w =>
      ((ask port w.memory).1, { w with memory := (ask port w.memory).2 }))
  | .binding host layer => canBind host layer (.int port)

/-- Asks a probe whether a port is free, and records the question with its answer. -/
def Probe.isFree (probe : Probe σ) (port : Int) : Run σ Bool := fun w =>
  match probe.answer port w with
  | .ok free w' => .ok free (w'.record (.probed port (some free)))
  | .error f w' => .error f (w'.record (.probed port none))

def Host.draw (host : Host σ) (stop : Nat) : Run σ Nat := fun w =>
  .ok (host.random w.drawn % stop).toNat { w.record (.drew stop) with drawn := w.drawn + 1 }

end ListenerPorts
