import ListenerPorts.CommandLine.Grammar
import ListenerPorts.Text.DecimalDigit

set_option autoImplicit false

/-! # Words and switches

Tells the switches among the words of a command line from the other words. A switch may be given by
the beginning of one of its long names, if no other name begins like that. What follows an equals
sign, or the one letter of a short name, is joined to the switch. After the first word `--` there
are no more switches.
-/

namespace ListenerPorts.CommandLine

variable {α : Type}

/-- A text that is joined to a switch in one word, with or without an equals sign between them. -/
structure Joined where
  equals : Bool
  text : List Char
deriving DecidableEq, Repr

inductive Kind (α : Type) where
  | plain
  /-- the first word `--` -/
  | dashes
  | switch (s : Switch α) (name : String) (joined : Option Joined)
  /-- a word of the form of a switch that the grammar does not have -/
  | stray

structure Token (α : Type) where
  word : String
  kind : Kind α

/-- A possible reading of a word as a switch. -/
structure Reading (α : Type) where
  name : String
  switch : Switch α
  joined : Option Joined

def allDigits (cs : List Char) : Bool := cs.all fun c => (Text.digitValue? c).isSome

/-- Whether the characters are those of a number: digits, or digits around a point, of which those
behind the point must be there. -/
def isNumeral (cs : List Char) : Bool :=
  let before := cs.takeWhile (· ≠ '.')
  match cs.dropWhile (· ≠ '.') with
  | [] => !before.isEmpty && allDigits before
  | _ :: after => allDigits before && !after.isEmpty && allDigits after

/-- Whether a word is a negative number. A line feed may follow it. -/
def isNegativeNumber : List Char → Bool
  | '-' :: cs => isNumeral cs || (cs.getLast? == some '\n' && isNumeral cs.dropLast)
  | _ => false

/-- A word cut at its first equals sign, if it has one. -/
def cutEquals (cs : List Char) : List Char × Option Joined :=
  match cs.dropWhile (· ≠ '=') with
  | [] => (cs, none)
  | _ :: after => (cs.takeWhile (· ≠ '='), some ⟨true, after⟩)

/-- The readings of a word as the beginning of a long name. -/
def longReadings (g : Grammar α) (cs : List Char) : List (Reading α) :=
  let (start, joined) := cutEquals cs
  (g.names.filter fun n => start.isPrefixOf n.1.toList).map fun n => ⟨n.1, n.2, joined⟩

/-- The readings of a word as a short name with a text joined to it, or as the beginning of a
name. -/
def shortReadings (g : Grammar α) (cs : List Char) : List (Reading α) :=
  g.names.filterMap fun n =>
    if n.1.toList = cs.take 2 then some ⟨n.1, n.2, some ⟨false, cs.drop 2⟩⟩
    else if cs.isPrefixOf n.1.toList then some ⟨n.1, n.2, none⟩
    else none

/-- The readings of a word that names no switch in full. -/
def readings (g : Grammar α) (cs : List Char) : List (Reading α) :=
  match cs with
  | '-' :: '-' :: _ => longReadings g cs
  | _ => shortReadings g cs

/-- The kind of a word that begins with a dash and names no switch in full. -/
def guessKind (g : Grammar α) (word : String) : Except Stop (Kind α) :=
  match readings g word.toList with
  | [r] => .ok (.switch r.switch r.name r.joined)
  | [] =>
    if isNegativeNumber word.toList || word.toList.contains ' ' then .ok .plain else .ok .stray
  | rs => .error (g.misuse ("ambiguous option: " ++ word ++ " could match " ++
      ", ".intercalate (rs.map (·.name))))

/-- The kind of a word in front of the first `--`. -/
def kindOf (g : Grammar α) (word : String) : Except Stop (Kind α) :=
  match word.toList with
  | '-' :: c :: cs =>
    match g.names.lookup word with
    | some s => .ok (.switch s word none)
    | none =>
      match cutEquals ('-' :: c :: cs) with
      | (start, some joined) =>
        match g.names.lookup (.ofList start) with
        | some s => .ok (.switch s (.ofList start) (some joined))
        | none => guessKind g word
      | (_, none) => guessKind g word
  | _ => .ok .plain

def tokens (g : Grammar α) : List String → Except Stop (List (Token α))
  | [] => .ok []
  | word :: words =>
    if word = "--" then .ok (⟨word, .dashes⟩ :: words.map (⟨·, .plain⟩))
    else do
      let kind ← kindOf g word
      return ⟨word, kind⟩ :: (← tokens g words)

end ListenerPorts.CommandLine
