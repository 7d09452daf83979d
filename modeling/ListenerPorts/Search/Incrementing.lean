import ListenerPorts.Probe

set_option autoImplicit false

/-! # Incrementing search

An incrementing search goes through the range in ascending order and takes the first two free
ports, which may be neighbours or not.
-/

namespace ListenerPorts

variable {σ : Type}

namespace Search

/-- Goes through the ports until a second free one is found; `first` is the one found before. -/
def firstTwo (host : Host σ) (range : PortRange) :
    (first : Option Nat) → (ports : List Nat) → Run σ (ByRole Nat)
  | _, [] => throw (.exhausted .incrementing range)
  | first, port :: ports => do
    if ← host.probe.isFree port then
      match first with
      | some application => return ⟨application, port⟩
      | none => firstTwo host range (some port) ports
    else firstTwo host range first ports

/-- The first two free ports of the range. -/
def incrementingPair (host : Host σ) (range : PortRange) : Run σ (ByRole Nat) :=
  firstTwo host range none range.ports

end Search

end ListenerPorts
