import ListenerPorts.Search.Adjacent
import ListenerPorts.Search.Incrementing
import ListenerPorts.Search.Random

set_option autoImplicit false

/-! # Searching by a strategy

Each strategy finds an application port and an admin port. Without a range the random strategy
leaves the choice to the system, which the port zero stands for; the others need a range.
-/

namespace ListenerPorts

variable {σ : Type}

/-- The ports that leave the choice to the system. -/
def systemChosen : ByRole Nat := ⟨0, 0⟩

/-- Searches a range for an application port and an admin port. -/
def Strategy.find (strategy : Strategy) (host : Host σ) (range? : Option PortRange) :
    Run σ (ByRole Nat) :=
  match strategy, range? with
  | .random, none => pure systemChosen
  | _, none => Run.lift (fail .rangeRequired)
  | .random, some range => Search.randomPair host range
  | .incrementing, some range => Search.incrementingPair host range
  | .adjacent, some range => Search.adjacentPair host range

end ListenerPorts
