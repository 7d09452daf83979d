import ListenerPorts.Text.Ranges

set_option autoImplicit false

/-! # Blanks

The characters that count as blank, and the text that is left when the blanks at both ends are
taken away. Zero-width characters are not blank.
-/

namespace ListenerPorts.Text

/-- The blank characters: the controls that move or separate, and every kind of space. -/
def blankRanges : List (Nat × Nat) :=
  [(0x09, 0x0D), (0x1C, 0x20), (0x85, 0x85), (0xA0, 0xA0), (0x1680, 0x1680), (0x2000, 0x200A),
   (0x2028, 0x2029), (0x202F, 0x202F), (0x205F, 0x205F), (0x3000, 0x3000)]

def isBlank (c : Char) : Bool := inRanges blankRanges c

/-- The characters without the blanks in front. -/
def trimFront (cs : List Char) : List Char := cs.dropWhile isBlank

/-- The characters without the blanks at either end. -/
def trimChars (cs : List Char) : List Char := (trimFront (trimFront cs).reverse).reverse

def trim (s : String) : String := String.ofList (trimChars s.toList)

def allBlank (s : String) : Bool := s.toList.all isBlank

/-- What is left after the blanks in front is empty or starts with a character that is not blank. -/
theorem trimFront_head (cs : List Char) : ∀ c ∈ (trimFront cs).head?, isBlank c = false := by
  induction cs with
  | nil => simp [trimFront]
  | cons a cs ih =>
    by_cases h : isBlank a = true
    · simpa [trimFront, h] using ih
    · simp [trimFront, h]

/-- Nothing is left in front exactly when every character is blank. -/
theorem trimFront_eq_nil (cs : List Char) : trimFront cs = [] ↔ cs.all isBlank = true := by
  induction cs with
  | nil => simp [trimFront]
  | cons a cs ih =>
    by_cases h : isBlank a = true
    · have skip : trimFront (a :: cs) = trimFront cs := by simp [trimFront, h]
      rw [skip, ih, List.all_cons, h, Bool.true_and]
    · simp [trimFront, h]

end ListenerPorts.Text
