set_option autoImplicit false

/-! # Search strategies

The ways of searching a range for free ports. Each is selected in a configuration by its name.
-/

namespace ListenerPorts

/-- A way of searching a range for an application port and an admin port. -/
inductive Strategy where
  | random
  | incrementing
  | adjacent
deriving DecidableEq, Repr

namespace Strategy

def name : Strategy → String
  | .random => "random"
  | .incrementing => "incrementing"
  | .adjacent => "adjacent"

def all : List Strategy := [.random, .incrementing, .adjacent]

theorem mem_all (s : Strategy) : s ∈ all := by cases s <;> simp [all]

end Strategy

end ListenerPorts
