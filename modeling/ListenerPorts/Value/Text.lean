import ListenerPorts.Value.Basic
import ListenerPorts.Text.Quoted

set_option autoImplicit false

/-! # The text of a value

A message shows a value in one of two forms. The quoted form keeps texts between quotes, so that it
tells a text from any other value. The plain form is the same but for texts and dates, which stand
bare when they are the whole value. Integers with too many digits have no text in either form.
-/

namespace ListenerPorts

/-- A number with leading zeros up to the width. -/
def padded (width n : Nat) : String :=
  let size := toString n
  String.ofList (List.replicate (width - size.length) '0') ++ size

namespace Value

mutual

def quoted : Value → String
  | .null => "None"
  | .bool true => "True"
  | .bool false => "False"
  | .int n => toString n
  | .float x => Numeral.floatText x
  | .text s => Text.quoted s
  | .date d => "datetime.date(" ++ toString d.year ++ ", " ++ toString d.month ++ ", " ++
      toString d.day ++ ")"
  | .list items => "[" ++ ", ".intercalate (quotedItems items) ++ "]"
  | .map entries => "\x7b" ++ ", ".intercalate (quotedEntries entries) ++ "\x7d"

def quotedItems : List Value → List String
  | [] => []
  | v :: vs => quoted v :: quotedItems vs

def quotedEntries : List (Value × Value) → List String
  | [] => []
  | (k, v) :: es => (quoted k ++ ": " ++ quoted v) :: quotedEntries es

end

def plain : Value → String
  | .text s => s
  | .date d => padded 4 d.year ++ "-" ++ padded 2 d.month ++ "-" ++ padded 2 d.day
  | v => v.quoted

@[simp] theorem plain_text (s : String) : (Value.text s).plain = s := rfl

/-- Whether an integer has a text: its decimal digits are few enough. -/
def intWritable (n : Int) : Bool := n.natAbs < Nat.pow 10 Numeral.maxDigits

mutual

/-- Whether a value has a text: all its integers do. -/
def writable : Value → Bool
  | .int n => intWritable n
  | .list items => itemsWritable items
  | .map entries => entriesWritable entries
  | _ => true

def itemsWritable : List Value → Bool
  | [] => true
  | v :: vs => writable v && itemsWritable vs

def entriesWritable : List (Value × Value) → Bool
  | [] => true
  | (k, v) :: es => writable k && writable v && entriesWritable es

end

/-- The least number with a digit too many has no text. -/
theorem unwritable_pow : (int (Nat.pow 10 Numeral.maxDigits : Nat)).writable = false := by
  rw [writable, intWritable, Int.natAbs_natCast]
  exact decide_eq_false (Nat.lt_irrefl _)

end Value

end ListenerPorts
