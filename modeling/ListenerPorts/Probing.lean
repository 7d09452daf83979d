import ListenerPorts.Probe

set_option autoImplicit false

/-! # Probing listed ports

The answers of a probe about ports that were listed one by one. Every listed port is asked about in
turn; a port that is listed again keeps its place and takes the newer answer.
-/

namespace ListenerPorts

variable {σ : Type}

/-- A machine to run on: the socket layer it has, its stream of random numbers, and a probe that is
used in place of the socket layer if there is one. -/
structure Machine (σ : Type) where
  probe? : Option (Probe σ)
  layer : SocketLayer σ
  random : Nat → Int

/-- The machine as operations see it that bind ports on an address. -/
def Machine.host (m : Machine σ) (address : String) : Host σ :=
  ⟨m.probe?.getD (.binding address m.layer), m.random⟩

/-- The answers with one set. -/
def setAnswer : List (Int × Bool) → Int → Bool → List (Int × Bool)
  | [], port, free => [(port, free)]
  | (p, b) :: answers, port, free =>
    if p = port then (p, free) :: answers else (p, b) :: setAnswer answers port free

/-- Asks about the ports in turn and sets their answers. -/
def probeInto (probe : Probe σ) : List (Int × Bool) → List Int → Run σ (List (Int × Bool))
  | answers, [] => return answers
  | answers, port :: ports => do
    let free ← probe.isFree port
    probeInto probe (setAnswer answers port free) ports

/-- The answers about ports, in the order in which they are first listed. -/
def probePorts (probe : Probe σ) (ports : List Int) : Run σ (List (Int × Bool)) :=
  probeInto probe [] ports

end ListenerPorts
