import ListenerPorts.Probe

set_option autoImplicit false

/-! # Adjacent search

An adjacent search goes through the range in ascending order and takes the first two neighbouring
ports that are both free. When the upper neighbour of a free port is busy, it cannot be the lower
one of a pair either, and the search resumes behind it.
-/

namespace ListenerPorts

variable {σ : Type}

namespace Search

/-- Goes through successive ports until two neighbours are free. -/
def firstNeighbours (host : Host σ) (range : PortRange) : (ports : List Nat) → Run σ (ByRole Nat)
  | port :: next :: ports => do
    if ← host.probe.isFree port then
      if ← host.probe.isFree next then return ⟨port, next⟩
      else
        Run.log .freePortFinders .debug
          ("Port " ++ toString port ++ " is open but " ++ toString next ++
            " is not, resuming at " ++ toString (next + 1))
        firstNeighbours host range ports
    else firstNeighbours host range (next :: ports)
  | _ => throw (.exhausted .adjacent range)

/-- The first two neighbouring free ports of the range. -/
def adjacentPair (host : Host σ) (range : PortRange) : Run σ (ByRole Nat) :=
  firstNeighbours host range range.ports

end Search

end ListenerPorts
