import ListenerPorts.Fault

set_option autoImplicit false

/-! # Printing JSON

Prints a value as a JSON text, one item or member to a line, each level indented by two spaces.
Characters beyond ASCII are escaped by their 16-bit units. Dates have no form in JSON, neither as
values nor as names.
-/

namespace ListenerPorts.Json

def unitEscape (n : Nat) : List Char := '\\' :: 'u' :: Text.hexDigits 4 n

def printChar (c : Char) : List Char :=
  if c = '"' then ['\\', '"']
  else if c = '\\' then ['\\', '\\']
  else if c = '\n' then ['\\', 'n']
  else if c = '\r' then ['\\', 'r']
  else if c = '\t' then ['\\', 't']
  else if c = '\x0c' then ['\\', 'f']
  else if c = '\x08' then ['\\', 'b']
  else if 0x20 ≤ c.toNat ∧ c.toNat < 0x7F then [c]
  else if c.toNat < 0x10000 then unitEscape c.toNat
  else
    let n := c.toNat - 0x10000
    unitEscape (0xD800 + n / 0x400) ++ unitEscape (0xDC00 + n % 0x400)

def printString (s : String) : String :=
  String.ofList ('"' :: s.toList.flatMap printChar ++ ['"'])

def printFloat (x : Float) : String :=
  if x.isNaN then "NaN"
  else if x.isInf then (if x < 0 then "-Infinity" else "Infinity")
  else Numeral.floatText x

/-- An integer, as far as it has a text. -/
def printInt (n : Int) : Except Fault String :=
  if Value.intWritable n then .ok (toString n) else .error .tooManyDigits

/-- The name that a key becomes. -/
def nameOf : Value → Except Fault String
  | .text s => .ok s
  | .null => .ok "null"
  | .bool b => .ok (if b then "true" else "false")
  | .int n => printInt n
  | .float x => .ok (printFloat x)
  | _ => .error .notEncodable

/-- A line break followed by the indentation of a level. -/
def lineBreak (level : Nat) : String := "\n" ++ String.ofList (List.replicate (2 * level) ' ')

/-- Parts between two brackets, one to a line, or nothing between them. -/
def enclose (opening closing : String) (level : Nat) (parts : List String) : String :=
  if parts.isEmpty then opening ++ closing
  else opening ++ lineBreak (level + 1) ++
    (("," ++ lineBreak (level + 1)).intercalate parts) ++ lineBreak level ++ closing

mutual

/-- A value at a level of indentation. -/
def printAt (level : Nat) : Value → Except Fault String
  | .null => .ok "null"
  | .bool b => .ok (if b then "true" else "false")
  | .int n => printInt n
  | .float x => .ok (printFloat x)
  | .text s => .ok (printString s)
  | .date _ => .error .notEncodable
  | .list items => do return enclose "[" "]" level (← printItems (level + 1) items)
  | .map entries => do return enclose "\x7b" "\x7d" level (← printMembers (level + 1) entries)

def printItems (level : Nat) : List Value → Except Fault (List String)
  | [] => .ok []
  | v :: vs => do return (← printAt level v) :: (← printItems level vs)

def printMembers (level : Nat) : List (Value × Value) → Except Fault (List String)
  | [] => .ok []
  | (k, v) :: es => do
    let name ← nameOf k
    return (printString name ++ ": " ++ (← printAt level v)) :: (← printMembers level es)

end

def print (v : Value) : Except Fault String := printAt 0 v

end ListenerPorts.Json
