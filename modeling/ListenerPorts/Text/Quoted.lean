import ListenerPorts.Text.Printable

set_option autoImplicit false

/-! # Quoted texts

The form in which a message shows a text: between quotes, with a backslash in front of what
cannot stand for itself. The quote is the single one unless the text holds single quotes and no
double one. Characters that are not printable are written by their code point, in the shortest of
the forms `\xNN`, `\uNNNN` and `\UNNNNNNNN` that holds it.
-/

namespace ListenerPorts.Text

/-- A digit below sixteen, in small letters. -/
def hexDigit (n : Nat) : Char := if n < 10 then Char.ofNat (48 + n) else Char.ofNat (87 + n)

/-- The last `width` hexadecimal digits of a number. -/
def hexDigits : (width n : Nat) → List Char
  | 0, _ => []
  | width + 1, n => hexDigits width (n / 16) ++ [hexDigit (n % 16)]

def escapeCode (n : Nat) : List Char :=
  if n < 0x100 then '\\' :: 'x' :: hexDigits 2 n
  else if n < 0x10000 then '\\' :: 'u' :: hexDigits 4 n
  else '\\' :: 'U' :: hexDigits 8 n

/-- The quote put around the characters. -/
def quoteFor (cs : List Char) : Char :=
  if cs.contains '\'' && !cs.contains '"' then '"' else '\''

/-- A character as it is written between two of the quotes. -/
def quotedChar (quote c : Char) : List Char :=
  if c = quote ∨ c = '\\' then ['\\', c]
  else if c = '\n' then ['\\', 'n']
  else if c = '\r' then ['\\', 'r']
  else if c = '\t' then ['\\', 't']
  else if isPrintable c then [c]
  else escapeCode c.toNat

/-- The text between quotes, as messages show it. -/
def quoted (s : String) : String :=
  let quote := quoteFor s.toList
  String.ofList (quote :: s.toList.flatMap (quotedChar quote) ++ [quote])

end ListenerPorts.Text
