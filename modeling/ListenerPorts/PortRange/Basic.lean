set_option autoImplicit false

/-! # Port ranges

A range of ports from which two different ports can be taken: its ends are ports of the transport
protocol and the lower end lies below the upper one. The type carries these bounds, so a range that
exists is a range that can be searched.
-/

namespace ListenerPorts

def highestPort : Nat := 65535

/-- An inclusive range of at least two ports. -/
structure PortRange where
  min : Nat
  max : Nat
  one_le_min : 1 ≤ min
  min_lt_max : min < max
  max_le : max ≤ highestPort
deriving DecidableEq, Repr

namespace PortRange

def portCount (r : PortRange) : Nat := r.max - r.min + 1

/-- How many draws a random search may make: three for every port of the range. -/
def maxAttempts (r : PortRange) : Nat := 3 * r.portCount

def ports (r : PortRange) : List Nat := List.range' r.min r.portCount

/-- A range holds at least two ports. -/
theorem two_le_portCount (r : PortRange) : 2 ≤ r.portCount := by
  have := r.min_lt_max
  simp only [portCount]
  omega

/-- The ports of a range are the numbers between its ends. -/
theorem mem_ports {r : PortRange} {p : Nat} : p ∈ r.ports ↔ r.min ≤ p ∧ p ≤ r.max := by
  have := r.min_lt_max
  simp only [ports, portCount, List.mem_range'_1]
  omega

@[simp] theorem length_ports (r : PortRange) : r.ports.length = r.portCount := by
  simp [ports]

end PortRange

end ListenerPorts
