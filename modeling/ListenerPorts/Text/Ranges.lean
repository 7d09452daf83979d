set_option autoImplicit false

/-! # Character classes as ranges

A character class is a list of closed ranges of code points. A character belongs to the class
when one of the ranges holds its code point.
-/

namespace ListenerPorts.Text

/-- Whether one of the closed ranges holds the code point of the character. -/
def inRanges (ranges : List (Nat × Nat)) (c : Char) : Bool :=
  ranges.any fun r => r.1 ≤ c.toNat && c.toNat ≤ r.2

@[simp] theorem inRanges_nil (c : Char) : inRanges [] c = false := rfl

/-- Membership in a class, as a statement about its ranges. -/
theorem inRanges_iff (rs : List (Nat × Nat)) (c : Char) :
    inRanges rs c = true ↔ ∃ r ∈ rs, r.1 ≤ c.toNat ∧ c.toNat ≤ r.2 := by
  simp [inRanges]

end ListenerPorts.Text
