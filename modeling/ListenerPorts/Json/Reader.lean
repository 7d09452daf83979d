import ListenerPorts.Fault

set_option autoImplicit false

/-! # Reading JSON

Reads a value from a JSON text. Beyond the standard, the names of infinity and of no number are
numbers, and a number may be of any size. Whole numbers and numbers with a fraction or an exponent
are told apart. A name that comes twice in an object keeps its place and takes the later value. Lists
and objects may lie in each other as deep as the reader is told to follow. A text that escapes one
half of a surrogate pair alone has no value here, since texts consist of whole characters.

A text that is no JSON is answered by what is wrong and where. While reading, a place is the part of
the text that is still left there.
-/

namespace ListenerPorts.Json

open Numeral

/-- What is wrong with a text at a place. -/
inductive Complaint where
  | valueExpected
  | nameExpected
  | colonExpected
  | commaExpected
  | extraData
  | unterminatedString
  | badEscape
  | badCodeEscape
  | controlCharacter
  | byteOrderMark
deriving DecidableEq, Repr

def Complaint.text : Complaint → String
  | valueExpected => "Expecting value"
  | nameExpected => "Expecting property name enclosed in double quotes"
  | colonExpected => "Expecting ':' delimiter"
  | commaExpected => "Expecting ',' delimiter"
  | extraData => "Extra data"
  | unterminatedString => "Unterminated string starting at"
  | badEscape => "Invalid \\escape"
  | badCodeEscape => "Invalid \\uXXXX escape"
  | controlCharacter => "Invalid control character at"
  | byteOrderMark => "Unexpected UTF-8 BOM (decode using utf-8-sig)"

inductive Stop where
  /-- the text is no JSON, and `place` is what is left where this shows -/
  | malformed (complaint : Complaint) (place : List Char)
  /-- a whole number has too many digits -/
  | tooManyDigits
  /-- a list or an object lies too deep -/
  | tooDeep
  /-- an escape stands for half of a character -/
  | halfCharacter

def stop {α : Type} (complaint : Complaint) (place : List Char) : Except Stop α :=
  .error (.malformed complaint place)

/-- Whether the character is blank between two parts of a text. -/
def isBlank (c : Char) : Bool := c == ' ' || c == '\t' || c == '\n' || c == '\r'

/-- The text after the blanks in front. -/
def skipBlanks (cs : List Char) : List Char := cs.dropWhile isBlank

/-! ## Strings -/

def hexDigit? (c : Char) : Option Nat :=
  if '0' ≤ c ∧ c ≤ '9' then some (c.toNat - 48)
  else if 'a' ≤ c ∧ c ≤ 'f' then some (c.toNat - 87)
  else if 'A' ≤ c ∧ c ≤ 'F' then some (c.toNat - 55)
  else none

/-- The number that four hexadecimal digits at the front stand for, if something follows them. -/
def fourDigits? : List Char → Option (Nat × List Char)
  | a :: b :: c :: d :: rest => do
    let n ← [a, b, c, d].mapM hexDigit?
    if rest.isEmpty then none else some (ofDigits 16 n, rest)
  | _ => none

/-- The character with a code point, if it is that of a whole one. -/
def charOf (n : Nat) : Except Stop Char :=
  if n.isValidChar then .ok (Char.ofNat n) else .error .halfCharacter

/-- The character that a code escape stands for, given what follows its `u`, and what is left. Two
escapes that make up a surrogate pair stand for one character. -/
def codeEscape (place : List Char) (cs : List Char) : Except Stop (Char × List Char) :=
  match fourDigits? cs with
  | none => stop .badCodeEscape place
  | some (high, rest) =>
    match rest with
    | '\\' :: 'u' :: more =>
      if 0xD800 ≤ high ∧ high < 0xDC00 ∧ 4 < more.length then
        match fourDigits? more with
        | none => stop .badCodeEscape ('u' :: more)
        | some (low, after) =>
          if 0xDC00 ≤ low ∧ low < 0xE000 then
            .ok (Char.ofNat (0x10000 + (high - 0xD800) * 0x400 + (low - 0xDC00)), after)
          else (·, rest) <$> charOf high
      else (·, rest) <$> charOf high
    | _ => (·, rest) <$> charOf high

/-- The character that a letter stands for behind a backslash. -/
def letterEscape? : Char → Option Char
  | '"' => some '"'
  | '\\' => some '\\'
  | '/' => some '/'
  | 'b' => some '\x08'
  | 'f' => some '\x0c'
  | 'n' => some '\n'
  | 'r' => some '\r'
  | 't' => some '\t'
  | _ => none

/-- Reads the characters of a string up to its closing quote. `start` is the place of the opening
quote, and the characters read before stand in `acc`, the last one first. -/
def readChars (start : List Char) :
    (fuel : Nat) → (acc : List Char) → List Char → Except Stop (String × List Char)
  | 0, _, _ => stop .unterminatedString start
  | _, _, [] => stop .unterminatedString start
  | _, _, ['\\'] => stop .unterminatedString start
  | _, acc, '"' :: rest => .ok (String.ofList acc.reverse, rest)
  | fuel + 1, acc, '\\' :: 'u' :: rest => do
    let (c, left) ← codeEscape ('u' :: rest) rest
    readChars start fuel (c :: acc) left
  | fuel + 1, acc, '\\' :: e :: rest =>
    match letterEscape? e with
    | some c => readChars start fuel (c :: acc) rest
    | none => stop .badEscape ('\\' :: e :: rest)
  | fuel + 1, acc, c :: rest =>
    if c.toNat < 0x20 then stop .controlCharacter (c :: rest)
    else readChars start fuel (c :: acc) rest

/-- Reads the string behind an opening quote. -/
def readString (cs : List Char) : Except Stop (String × List Char) :=
  readChars ('"' :: cs) (cs.length + 1) [] cs

/-! ## Numbers -/

def digit? (c : Char) : Option Nat := if c.isDigit then some (c.toNat - 48) else none

/-- The fraction at the front: a point with at least one digit behind it. -/
def readFraction : List Char → List Nat × List Char
  | '.' :: cs =>
    match spanDigits digit? cs with
    | ([], _) => ([], '.' :: cs)
    | found => found
  | cs => ([], cs)

/-- The exponent at the front, if there is one with at least one digit. -/
def readExponent : List Char → Option Int × List Char
  | [] => (none, [])
  | e :: cs =>
    if e = 'e' ∨ e = 'E' then
      let (negative, body) := signed cs
      match spanDigits digit? body with
      | ([], _) => (none, e :: cs)
      | (ds, rest) => (some (if negative then -(ofDigits 10 ds : Int) else ofDigits 10 ds), rest)
    else (none, e :: cs)

/-- The whole digits at the front, of which there is only one if the first is zero. -/
def readWhole : List Char → List Nat × List Char
  | '0' :: cs => ([0], cs)
  | cs => spanDigits digit? cs

/-- Reads the number that starts at the place `start`. A point or an exponent without digits does
not belong to the number. -/
def readNumber (start : List Char) : Except Stop (Value × List Char) :=
  let (negative, body) := match start with
    | '-' :: cs => (true, cs)
    | cs => (false, cs)
  match readWhole body with
  | ([], _) => stop .valueExpected start
  | (whole, rest) =>
    let (fraction, rest) := readFraction rest
    let (exponent, rest) := readExponent rest
    if fraction.isEmpty ∧ exponent.isNone then
      if maxDigits < whole.length then .error .tooManyDigits
      else
        let n := ofDigits 10 whole
        .ok (.int (if negative then -(n : Int) else n), rest)
    else
      let x := (Decimal.ofParts whole fraction (exponent.getD 0)).toFloat
      .ok (.float (if negative then -x else x), rest)

/-! ## Values -/

def named : List (List Char × Value) :=
  [("null".toList, .null), ("true".toList, .bool true), ("false".toList, .bool false),
   ("NaN".toList, .float (0 / 0)), ("Infinity".toList, .float (1 / 0)),
   ("-Infinity".toList, .float (-1 / 0))]

/-- Reads the named value at the front, if there is one. -/
def readNamed? (cs : List Char) : Option (Value × List Char) :=
  named.findSome? fun n =>
    if n.1.isPrefixOf cs then some (n.2, cs.drop n.1.length) else none

mutual

/-- Reads a value in which lists and objects lie at most `levels` deep. -/
def readValue : (fuel levels : Nat) → List Char → Except Stop (Value × List Char)
  | 0, _, cs => stop .valueExpected cs
  | fuel + 1, levels, cs =>
    match cs with
    | '"' :: rest => do
      let (s, left) ← readString rest
      return (.text s, left)
    | '[' :: rest =>
      match levels with
      | 0 => .error .tooDeep
      | levels + 1 =>
        match skipBlanks rest with
        | ']' :: left => .ok (.list [], left)
        | items => readItems fuel levels [] items
    | '\x7b' :: rest =>
      match levels with
      | 0 => .error .tooDeep
      | levels + 1 =>
        match skipBlanks rest with
        | '\x7d' :: left => .ok (.map [], left)
        | members => readMembers fuel levels [] members
    | _ =>
      match readNamed? cs with
      | some found => .ok found
      | none => readNumber cs

/-- Reads the items of a list up to its closing bracket; those read before are in `acc`, the last
one first. -/
def readItems : (fuel levels : Nat) → (acc : List Value) → List Char →
    Except Stop (Value × List Char)
  | 0, _, _, cs => stop .valueExpected cs
  | fuel + 1, levels, acc, cs => do
    let (v, rest) ← readValue fuel levels cs
    match skipBlanks rest with
    | ']' :: left => return (.list (v :: acc).reverse, left)
    | ',' :: more => readItems fuel levels (v :: acc) (skipBlanks more)
    | place => stop .commaExpected place

/-- Reads the members of an object up to its closing brace; those read before are in `acc`. -/
def readMembers : (fuel levels : Nat) → (acc : Entries) → List Char →
    Except Stop (Value × List Char)
  | 0, _, _, cs => stop .nameExpected cs
  | fuel + 1, levels, acc, cs =>
    match cs with
    | '"' :: rest => do
      let (name, rest) ← readString rest
      match skipBlanks rest with
      | ':' :: rest =>
        let (v, rest) ← readValue fuel levels (skipBlanks rest)
        let acc := Entries.put acc (.text name) v
        match skipBlanks rest with
        | '\x7d' :: left => return (.map acc, left)
        | ',' :: more => readMembers fuel levels acc (skipBlanks more)
        | place => stop .commaExpected place
      | place => stop .colonExpected place
    | place => stop .nameExpected place

end

/-- Reads the value that makes up the whole text. The length of the text bounds the number of steps
that reading it takes. -/
def readAll (levels : Nat) (cs : List Char) : Except Stop Value :=
  match cs with
  | '\uFEFF' :: _ => stop .byteOrderMark cs
  | _ => do
    let (v, rest) ← readValue (2 * cs.length + 1) levels (skipBlanks cs)
    match skipBlanks rest with
    | [] => return v
    | place => stop .extraData place

/-- Where a place is in a text: its line and column, counted from one, and its offset from zero. -/
def position (text place : List Char) : String :=
  let before := text.take (text.length - place.length)
  let line := before.count '\n' + 1
  let column := (before.reverse.takeWhile (· != '\n')).length + 1
  "line " ++ toString line ++ " column " ++ toString column ++
    " (char " ++ toString before.length ++ ")"

/-- What is answered for a text at which reading stops. -/
def Stop.rejection (text : List Char) : Stop → Rejection
  | malformed complaint place => .malformed (complaint.text ++ ": " ++ position text place)
  | tooManyDigits => .failed .tooManyDigits
  | tooDeep => .failed .tooDeep
  | halfCharacter => .failed .halfCharacter

/-- The value that a text stands for. -/
def read (levels : Nat) : Reader := fun text =>
  (readAll levels text.toList).mapError (Stop.rejection text.toList)

end ListenerPorts.Json
