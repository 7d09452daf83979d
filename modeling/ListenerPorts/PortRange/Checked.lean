import ListenerPorts.Fault

set_option autoImplicit false

/-! # Ranges from values

A range is made from the two values that a configuration gives for its ends. The checks come in the
order of their messages: both ends are integers, they ascend, each lies within its bounds.
-/

namespace ListenerPorts

namespace PortRange

def ofInts (min max : Int) : Except Fault PortRange :=
  if h : max ≤ min then fail (.rangeNotAscending min max)
  else if h₁ : min < 1 ∨ 65534 < min then fail (.minOutOfBounds min)
  else if h₂ : max < 2 ∨ 65535 < max then fail (.maxOutOfBounds max)
  else .ok ⟨min.toNat, max.toNat, by omega, by omega, by simp only [highestPort]; omega⟩

def ofValues (min max : Value) : Except Fault PortRange :=
  match min, max with
  | .int a, .int b => ofInts a b
  | _, _ => fail (.rangeNotIntegers min max)

end PortRange

namespace Value

/-- Whether a value lies between two numbers. Truth values count as numbers; what is neither cannot
be compared. -/
def between (low high : Nat) : Value → Except Fault Bool
  | .int n => .ok (low ≤ n && n ≤ high)
  | .bool b => .ok (low ≤ b.toNat && b.toNat ≤ high)
  | .float x => .ok (low.toFloat ≤ x && x ≤ high.toFloat)
  | _ => .error .notComparable

end Value

def PortRange.contains (r : PortRange) (v : Value) : Except Fault Bool := v.between r.min r.max

end ListenerPorts
