import ListenerPorts.Numeral.Decimal

set_option autoImplicit false

/-! # Writing floating-point numbers

A floating-point number is written with the fewest decimal digits that read back as the same
number, and of those with the digits nearest to it. The digits are selected by exact arithmetic on
the number's mantissa and exponent, so no rounding enters the choice.
-/

namespace ListenerPorts.Numeral

/-- The finite number `mantissa * 2 ^ power`, without its sign. `narrowBelow` says that the number
below is only half as far away as the number above. -/
structure Binary where
  mantissa : Nat
  power : Int
  narrowBelow : Bool

/-- The number that the bits of a finite floating-point number stand for. -/
def Binary.ofBits (bits : UInt64) : Binary :=
  let e := ((bits >>> 52) &&& 0x7FF).toNat
  let f := (bits &&& 0xFFFFFFFFFFFFF).toNat
  if e = 0 then ⟨f, -1074, false⟩ else ⟨Nat.pow 2 52 + f, e - 1075, f == 0 && 1 < e⟩

/-- Compares `a * 10 ^ i` with `b * 2 ^ j`. -/
def compareScaled (a : Nat) (i : Int) (b : Nat) (j : Int) : Ordering :=
  compare (a * Nat.pow 10 i.toNat * Nat.pow 2 (-j).toNat)
    (b * Nat.pow 2 j.toNat * Nat.pow 10 (-i).toNat)

/-- Whether the decimal lies among the numbers that round to `x`: between the halfway points to its
two neighbours, which belong to `x` when its mantissa is even. -/
def Binary.readsBack (x : Binary) (d : Decimal) : Bool :=
  let low := if x.narrowBelow then 4 * x.mantissa - 1 else 4 * x.mantissa - 2
  let high := 4 * x.mantissa + 2
  let closed := x.mantissa % 2 == 0
  let atLow := compareScaled d.digits d.exponent low (x.power - 2)
  let atHigh := compareScaled d.digits d.exponent high (x.power - 2)
  (atLow == .gt || (closed && atLow == .eq)) && (atHigh == .lt || (closed && atHigh == .eq))

/-- The least power of ten above a number that is not zero. -/
def Binary.scale (x : Binary) : Int :=
  let k := Int.fdiv ((x.mantissa.log2 + x.power) * 30103) 100000
  if compareScaled 1 k x.mantissa x.power == .gt then k
  else if compareScaled 1 (k + 1) x.mantissa x.power == .gt then k + 1
  else k + 2

/-- The multiple of `10 ^ grid` that reads back as `x`, if one of the two neighbours of `x` does:
the nearer one, and the even one when both are equally near. -/
def Binary.onGrid? (x : Binary) (grid : Int) : Option Decimal :=
  let above := x.mantissa * Nat.pow 2 x.power.toNat * Nat.pow 10 (-grid).toNat
  let below := Nat.pow 2 (-x.power).toNat * Nat.pow 10 grid.toNat
  let q := above / below
  let r := above % below
  let down : Decimal := ⟨q, grid⟩
  let up : Decimal := ⟨q + 1, grid⟩
  match x.readsBack down, x.readsBack up with
  | true, true =>
    match compare (2 * r) below with
    | .lt => some down
    | .gt => some up
    | .eq => some (if q % 2 = 0 then down else up)
  | true, false => some down
  | false, true => some up
  | false, false => none

/-- The decimal with the fewest digits that reads back as `x`. Seventeen digits always suffice; the
exact value stands in for the case that they did not. -/
def Binary.shortest (x : Binary) : Decimal :=
  let k := x.scale
  match (List.range 17).findSome? fun (n : Nat) => x.onGrid? (k - (n + 1 : Nat)) with
  | some d => d
  | none =>
    ⟨x.mantissa * Nat.pow 2 x.power.toNat * Nat.pow 5 (-x.power).toNat, min x.power 0⟩

/-- Takes the zeros at the end of the digits into the exponent. -/
def Decimal.stripped : (fuel : Nat) → Decimal → Decimal
  | 0, d => d
  | fuel + 1, d =>
    if d.digits ≠ 0 ∧ d.digits % 10 = 0 then
      Decimal.stripped fuel ⟨d.digits / 10, d.exponent + 1⟩
    else d

/-- The exponent of a number in scientific notation: signed, and with at least two digits. -/
def exponentText (e : Int) : String :=
  let size := toString e.natAbs
  (if e < 0 then "-" else "+") ++ (if size.length < 2 then "0" ++ size else size)

/-- Lays out digits whose point stands behind the first `point` of them. Numbers from `0.0001` up to
sixteen digits before the point are written positionally and always with a point, all others in
scientific notation. -/
def layout (digits : List Char) (point : Int) : String :=
  if -4 < point ∧ point ≤ 16 then
    if point ≤ 0 then
      "0." ++ String.ofList (List.replicate (-point).toNat '0' ++ digits)
    else if point.toNat < digits.length then
      String.ofList (digits.take point.toNat ++ '.' :: digits.drop point.toNat)
    else
      String.ofList (digits ++ List.replicate (point.toNat - digits.length) '0') ++ ".0"
  else
    match digits with
    | [d] => String.ofList [d, 'e'] ++ exponentText (point - 1)
    | d :: ds => String.ofList (d :: '.' :: ds ++ ['e']) ++ exponentText (point - 1)
    | [] => ""

def floatText (x : Float) : String :=
  if x.isNaN then "nan"
  else
    let bits := x.toBits
    let sign := if bits >>> 63 == 0 then "" else "-"
    if x.isInf then sign ++ "inf"
    else
      let b := Binary.ofBits bits
      if b.mantissa = 0 then sign ++ "0.0"
      else
        let d := b.shortest.stripped 17
        let digits := (toString d.digits).toList
        sign ++ layout digits (digits.length + d.exponent)

end ListenerPorts.Numeral
