import ListenerPorts.Probe

set_option autoImplicit false

/-! # Random search

A random search draws ports of the range until one is free and not yet used. It asks the probe
about every port it draws, also about a used one, and gives up after a number of draws that the
size of the range fixes.
-/

namespace ListenerPorts

variable {σ : Type}

namespace Search

def drawPort (host : Host σ) (range : PortRange) : Run σ Nat := do
  return range.min + (← host.draw range.portCount)

/-- Draws a port at most `attempts` times, until one is free and not used. -/
def drawFree (host : Host σ) (range : PortRange) (used : List Int) : (attempts : Nat) → Run σ Nat
  | 0 => throw (.exhausted .random range)
  | attempts + 1 => do
    let port ← drawPort host range
    Run.log .freePortFinders .debug
      ("Checking if port " ++ toString port ++ " is available")
    if (← host.probe.isFree port) && !used.contains (port : Int) then return port
    else drawFree host range used attempts

/-- A free port of the range, drawn at random, that is not used. -/
def randomPort (host : Host σ) (range : PortRange) (used : List Int) : Run σ Nat :=
  drawFree host range used range.maxAttempts

/-- Two different free ports of the range, drawn at random. -/
def randomPair (host : Host σ) (range : PortRange) : Run σ (ByRole Nat) := do
  let application ← randomPort host range []
  let admin ← randomPort host range [application]
  return ⟨application, admin⟩

end Search

end ListenerPorts
