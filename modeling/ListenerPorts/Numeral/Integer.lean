import ListenerPorts.Text.Blank
import ListenerPorts.Text.DecimalDigit

set_option autoImplicit false

/-! # Reading integers

An integer is written as an optional sign and digits of a base, with blanks around it allowed. A
single underscore may stand between two digits, and a decimal digit of any script counts. In the
bases two, eight and sixteen the digits may follow the mark of the base (`0b`, `0o`, `0x`).
Decimal numerals are limited in length.
-/

namespace ListenerPorts.Numeral

open ListenerPorts.Text

/-- The most digits that a decimal numeral may have, on reading and on writing. -/
def maxDigits : Nat := 4300

/-- Whether the character may stand around a numeral: every blank but the four separators. -/
def isPadding (c : Char) : Bool := isBlank c && !(0x1C ≤ c.toNat && c.toNat ≤ 0x1F)

/-- The characters without the padding at either end. -/
def unpadded (cs : List Char) : List Char :=
  ((cs.dropWhile isPadding).reverse.dropWhile isPadding).reverse

/-- The value of a digit or letter, letters counting from ten. -/
def digitOrLetter? (c : Char) : Option Nat :=
  if 'a' ≤ c && c ≤ 'z' then some (c.toNat - 87)
  else if 'A' ≤ c && c ≤ 'Z' then some (c.toNat - 55)
  else digitValue? c

def digit? (base : Nat) (c : Char) : Option Nat := (digitOrLetter? c).filter (· < base)

/-- The digits of a numeral, most significant first, in which a single underscore may separate two
digits. -/
def digits? (base : Nat) : List Char → Option (List Nat)
  | [] => none
  | [c] => (digit? base c).map ([·])
  | c :: '_' :: cs => do
    let d ← digit? base c
    let ds ← digits? base cs
    return d :: ds
  | c :: cs => do
    let d ← digit? base c
    let ds ← digits? base cs
    return d :: ds

/-- The number that digits stand for, most significant first. -/
def ofDigits (base : Nat) (ds : List Nat) : Nat := ds.foldl (fun n d => n * base + d) 0

def baseMark? : Nat → Option Char
  | 2 => some 'b'
  | 8 => some 'o'
  | 16 => some 'x'
  | _ => none

/-- The digits without the mark of their base, and without the underscore that may follow it. -/
def withoutMark (base : Nat) (cs : List Char) : List Char :=
  match cs with
  | '0' :: m :: rest =>
    if some m.toLower = baseMark? base then
      match rest with
      | '_' :: ds => ds
      | ds => ds
    else cs
  | _ => cs

/-- The sign in front of a numeral, and what follows it. -/
def signed : List Char → Bool × List Char
  | '-' :: cs => (true, cs)
  | '+' :: cs => (false, cs)
  | cs => (false, cs)

def readInteger? (base : Nat) (cs : List Char) : Option Int := do
  let (negative, body) := signed (unpadded cs)
  let ds ← digits? base (withoutMark base body)
  if base = 10 ∧ maxDigits < ds.length then none
  else
    let n := ofDigits base ds
    return if negative then -(n : Int) else n

end ListenerPorts.Numeral
