import ListenerPorts.Text.Quoted

set_option autoImplicit false

/-! # Grammars of command lines

A grammar says what the words after a program's name mean. A switch is a word that begins with a
dash and may bring one more word; all other words go to the one slot of the grammar. What the words
say is gathered in a value of a type of the grammar's own.
-/

namespace ListenerPorts.CommandLine

/-- Why words are not acted upon. -/
inductive Stop where
  /-- the help text was asked for -/
  | help (text : String)
  /-- the words are not understood, by the program with the usage -/
  | misuse (usage program message : String)

inductive Effect (α : Type) where
  | help
  | flag (set : α → α)
  /-- takes a word, or says what is wrong with it -/
  | word (set : String → α → Except String α)

structure Switch (α : Type) where
  names : List String
  effect : Effect α

def Switch.label {α : Type} (s : Switch α) : String := "/".intercalate s.names

def Switch.takesWord {α : Type} (s : Switch α) : Bool :=
  match s.effect with
  | .word _ => true
  | _ => false

inductive Reach where
  | one
  /-- one or more, up to the next switch -/
  | many
  /-- one, and all that follow it -/
  | all
deriving DecidableEq, Repr

/-- Why a slot does not take words. -/
inductive Refusal where
  | unfit (detail : String)
  /-- the words are for another program, which has stopped -/
  | stopped (stop : Stop)

structure Slot (α : Type) where
  name : String
  reach : Reach
  needed : Bool
  fill : List String → α → Except Refusal α

/-- A grammar of the words that follow a program's name. -/
structure Grammar (α : Type) where
  program : String
  usage : String
  /-- the help text after the usage -/
  rest : String
  switches : List (Switch α)
  slot : Slot α

namespace Grammar

variable {α : Type}

def help (g : Grammar α) : String := g.usage ++ "\n" ++ g.rest

/-- Stops because the words are not understood. -/
def misuse (g : Grammar α) (message : String) : Stop := .misuse g.usage g.program message

/-- Stops because of what a switch or the slot was given. -/
def misused (g : Grammar α) (label detail : String) : Stop :=
  g.misuse ("argument " ++ label ++ ": " ++ detail)

/-- All names of switches, in the order in which they are listed. -/
def names (g : Grammar α) : List (String × Switch α) :=
  g.switches.flatMap fun s => s.names.map fun n => (n, s)

end Grammar

/-- The detail about a word that is none of the choices. -/
def invalidChoice (choices : List String) (word : String) : String :=
  "invalid choice: " ++ Text.quoted word ++ " (choose from " ++
    ", ".intercalate (choices.map Text.quoted) ++ ")"

end ListenerPorts.CommandLine
