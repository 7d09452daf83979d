import ListenerPorts.Numeral.Integer

set_option autoImplicit false

/-! # Reading decimal fractions

A decimal fraction is kept exactly, as a whole number and a power of ten, and is rounded once to
the nearest floating-point number.
-/

namespace ListenerPorts.Numeral

/-- The number `digits * 10 ^ exponent`. -/
structure Decimal where
  digits : Nat
  exponent : Int
deriving Repr, DecidableEq

/-- The floating-point number nearest to the decimal. Far beyond the range of floating-point
numbers it is infinity or zero, which is decided without computing the power of ten. -/
def Decimal.toFloat (d : Decimal) : Float :=
  let size := (toString d.digits).length + d.exponent
  if d.digits = 0 ∨ size < -330 then 0
  else if 310 < size then 1 / 0
  else match d.exponent with
    | .ofNat e => Float.ofScientific d.digits false e
    | .negSucc e => Float.ofScientific d.digits true (e + 1)

/-- The decimal with the given whole and fractional digits and exponent. -/
def Decimal.ofParts (whole fraction : List Nat) (exponent : Int) : Decimal :=
  ⟨ofDigits 10 (whole ++ fraction), exponent - fraction.length⟩

/-- The decimal digits at the front, and what follows them. -/
def spanDigits (digit? : Char → Option Nat) : List Char → List Nat × List Char
  | [] => ([], [])
  | c :: cs =>
    match digit? c with
    | some d =>
      let (ds, rest) := spanDigits digit? cs
      (d :: ds, rest)
    | none => ([], c :: cs)

/-- The exponent that may end a decimal: a sign may stand before its digits. -/
def readExponent? : List Char → Option Int
  | [] => some 0
  | e :: cs =>
    if e = 'e' ∨ e = 'E' then
      let (negative, body) := signed cs
      match spanDigits Text.digitValue? body with
      | ([], _) => none
      | (ds, []) => some (if negative then -(ofDigits 10 ds : Int) else ofDigits 10 ds)
      | _ => none
    else none

/-- Reads digits with a point and an exponent, each of which may be missing. -/
def readUnsigned? (cs : List Char) : Option Decimal :=
  let (whole, rest) := spanDigits Text.digitValue? cs
  let (fraction, tail) := match rest with
    | '.' :: more => spanDigits Text.digitValue? more
    | _ => ([], rest)
  if whole.isEmpty ∧ fraction.isEmpty then none
  else (readExponent? tail).map (Decimal.ofParts whole fraction)

/-- Reads a floating-point number: a decimal, or the name of infinity or of no number. -/
def readFloat? (cs : List Char) : Option Float :=
  let (negative, body) := signed (unpadded cs)
  let size := match String.ofList (body.map Char.toLower) with
    | "inf" | "infinity" => some (1 / 0)
    | "nan" => some (0 / 0)
    | _ => (readUnsigned? body).map Decimal.toFloat
  size.map fun x => if negative then -x else x

end ListenerPorts.Numeral
