import ListenerPorts.Text.Lowercase
import ListenerPorts.Yaml.Resolve

set_option autoImplicit false

/-! # Values of typed scalars

The value that the text of a scalar stands for, given its type. A text can have the form of a type
without standing for a value of it, and a tag can ask for a type that the text has not the form of.
-/

namespace ListenerPorts.Yaml

open Numeral

namespace Typed

/-- The characters of a number without the gaps between its digits. -/
def withoutGaps (s : String) : List Char := s.toList.filter (· != '_')

/-- The sum of the parts of a number in base sixty, the least significant first. -/
def sumSixty (parts : List Int) : Int := parts.foldr (fun d n => d + 60 * n) 0

def bool (s : String) : Except Stop Bool :=
  match Text.lower s with
  | "yes" | "true" | "on" => .ok true
  | "no" | "false" | "off" => .ok false
  | _ => .error .notTruthWord

/-- The number without its sign: in base two, sixteen, eight, sixty or ten, by its first
characters. -/
def unsignedInt (cs : List Char) : Except Stop Int :=
  let read (base : Nat) (ds : List Char) : Except Stop Int :=
    match readInteger? base ds with
    | some n => .ok n
    | none => .error .scalarUnreadable
  match cs with
  | [] => .error .integerEmpty
  | ['0'] => .ok 0
  | '0' :: 'b' :: ds => read 2 ds
  | '0' :: 'x' :: ds => read 16 ds
  | '0' :: _ => read 8 cs
  | _ =>
    if cs.contains ':' then do
      let parts ← (Resolve.splitColons cs).mapM (read 10)
      return sumSixty parts.reverse
    else read 10 cs

def int (s : String) : Except Stop Int := do
  let (negative, body) := signed (withoutGaps s)
  let n ← unsignedInt body
  return if negative then -n else n

/-- The sum of the parts of a fraction in base sixty, the least significant first. The place values
are exact until they are used. -/
def sumSixtyParts : (place : Nat) → (sum : Float) → List Float → Except Stop Float
  | _, sum, [] => .ok sum
  | place, sum, d :: ds =>
    if Nat.pow 2 1024 ≤ place then .error .overflow
    else sumSixtyParts (place * 60) (sum + d * place.toFloat) ds

def unsignedFloat (cs : List Char) : Except Stop Float :=
  let read (ds : List Char) : Except Stop Float :=
    match readFloat? ds with
    | some x => .ok x
    | none => .error .scalarUnreadable
  match String.ofList cs with
  | ".inf" => .ok (1 / 0)
  | ".nan" => .ok (0 / 0)
  | _ =>
    if cs.contains ':' then do
      let parts ← (Resolve.splitColons cs).mapM read
      sumSixtyParts 1 0 parts.reverse
    else read cs

def float (s : String) : Except Stop Float := do
  let cs := (Text.lower (String.ofList (withoutGaps s))).toList
  if cs.isEmpty then .error .integerEmpty
  else
    let (negative, body) := signed cs
    let x ← unsignedFloat body
    return if negative then -x else x

/-- The day that a text of the form of a day stands for. -/
def date (s : String) : Except Stop Date :=
  let number (cs : List Char) : Nat := ofDigits 10 (cs.map fun c => c.toNat - 48)
  let cs := s.toList
  if Resolve.isDate cs then
    match Date.of? (number (cs.take 4)) (number ((cs.drop 5).take 2)) (number (cs.drop 8)) with
    | some d => .ok d
    | none => .error .scalarUnreadable
  else malformed .tagNotUsable

/-- The value of a scalar of a type. The keys with a meaning of their own are no values. -/
def value (tag : Tag) (s : String) : Except Stop Value :=
  match tag with
  | .null => .ok .null
  | .bool => .bool <$> bool s
  | .int => .int <$> int s
  | .float => .float <$> float s
  | .date => .date <$> date s
  | .text => .ok (.text s)
  | .sequence | .mapping | .merge | .equals | .unknown => malformed .tagNotUsable

end Typed

end ListenerPorts.Yaml
