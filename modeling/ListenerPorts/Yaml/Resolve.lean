import ListenerPorts.Yaml.Cursor

set_option autoImplicit false

/-! # Types of scalars

The type of a plain scalar follows from its text alone. A tag in front of a node states its type
instead.
-/

namespace ListenerPorts.Yaml

inductive Tag where
  | null
  | bool
  | int
  | float
  | date
  | text
  | sequence
  | mapping
  /-- the key under which a mapping is merged -/
  | merge
  /-- the key that stands for the mapping itself -/
  | equals
  | unknown
deriving DecidableEq, Repr

namespace Resolve

open Numeral

def nullWords : List String := ["", "~", "null", "Null", "NULL"]

def boolWords : List String :=
  ["yes", "Yes", "YES", "no", "No", "NO", "true", "True", "TRUE", "false", "False", "FALSE",
   "on", "On", "ON", "off", "Off", "OFF"]

/-- Whether the character is a digit, or an underscore between digits. -/
def isDigitOrGap (c : Char) : Bool := c.isDigit || c == '_'

/-- Whether the text is digits with gaps, the first being a digit. -/
def isDigits : List Char → Bool
  | [] => false
  | c :: cs => c.isDigit && cs.all isDigitOrGap

/-- Whether the text is one or more of the allowed characters. -/
def isSome (allowed : Char → Bool) (cs : List Char) : Bool := !cs.isEmpty && cs.all allowed

/-- Whether the text is a number below sixty. -/
def isSixtieth : List Char → Bool
  | [d] => d.isDigit
  | [t, d] => '0' ≤ t && t ≤ '5' && d.isDigit
  | _ => false

def splitColons : List Char → List (List Char)
  | [] => [[]]
  | c :: cs =>
    match splitColons cs with
    | [] => [[c]]
    | part :: parts => if c = ':' then [] :: part :: parts else (c :: part) :: parts

/-- Whether the text is a number in base sixty, its first part of a given form. -/
def isBaseSixty (first : List Char → Bool) (cs : List Char) : Bool :=
  match splitColons cs with
  | head :: part :: parts => first head && (part :: parts).all isSixtieth
  | _ => false

/-- Whether the text has the form of an integer: in base two, eight, ten, sixteen or sixty. -/
def isInt (cs : List Char) : Bool :=
  let (_, body) := signed cs
  match body with
  | '0' :: 'b' :: ds => isSome (fun c => c == '0' || c == '1' || c == '_') ds
  | '0' :: 'x' :: ds => isSome (fun c => (digit? 16 c).isSome && c.toNat < 0x80 || c == '_') ds
  | ['0'] => true
  | '0' :: ds => ds.all fun c => ('0' ≤ c && c ≤ '7') || c == '_'
  | _ => isDigits body || isBaseSixty isDigits body

/-- Whether the text is an exponent, which needs a sign. -/
def isExponent : List Char → Bool
  | e :: s :: ds => (e == 'e' || e == 'E') && (s == '+' || s == '-') && isSome Char.isDigit ds
  | _ => false

/-- Whether the text is a fraction behind its point, with or without an exponent. -/
def isFraction (cs : List Char) : Bool :=
  let rest := cs.dropWhile isDigitOrGap
  rest.isEmpty || isExponent rest

/-- Whether the text has the form of a fraction: with a point, in base ten or sixty, or one of the
names of infinity and of no number. -/
def isFloat (cs : List Char) : Bool :=
  let (_, body) := signed cs
  let whole := body.takeWhile (· != '.')
  match body.drop whole.length with
  | [] => false
  | _ :: fraction =>
    (isDigits whole && isFraction fraction) ||
    (isBaseSixty isDigits whole && fraction.all isDigitOrGap) ||
    (whole.isEmpty && ["inf", "Inf", "INF"].contains (String.ofList fraction)) ||
    (whole.isEmpty && cs.head? == some '.' &&
      ((fraction.head?.any Char.isDigit && isFraction fraction) ||
        ["nan", "NaN", "NAN"].contains (String.ofList fraction)))

/-- Whether the text has the form of a day: four, two and two digits. -/
def isDate (cs : List Char) : Bool :=
  match cs with
  | [a, b, c, d, '-', e, f, '-', g, h] => [a, b, c, d, e, f, g, h].all Char.isDigit
  | _ => false

end Resolve

def Tag.ofPlain (s : String) : Tag :=
  let cs := s.toList
  if Resolve.boolWords.contains s then .bool
  else if Resolve.isFloat cs then .float
  else if Resolve.isInt cs then .int
  else if s = "<<" then .merge
  else if Resolve.nullWords.contains s then .null
  else if Resolve.isDate cs then .date
  else if s = "=" then .equals
  else .text

def Tag.ofName (s : String) : Tag :=
  match s with
  | "tag:yaml.org,2002:null" => .null
  | "tag:yaml.org,2002:bool" => .bool
  | "tag:yaml.org,2002:int" => .int
  | "tag:yaml.org,2002:float" => .float
  | "tag:yaml.org,2002:timestamp" => .date
  | "tag:yaml.org,2002:str" => .text
  | "tag:yaml.org,2002:seq" => .sequence
  | "tag:yaml.org,2002:map" => .mapping
  | "tag:yaml.org,2002:merge" => .merge
  | "tag:yaml.org,2002:value" => .equals
  | _ => .unknown

end ListenerPorts.Yaml
