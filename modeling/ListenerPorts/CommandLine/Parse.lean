import ListenerPorts.CommandLine.Token

set_option autoImplicit false

/-! # Reading a command line

Goes through the words of a command line from the left. The first words that are no switch fill the
slot, as far as it reaches; later ones, and switches that the grammar does not have, are left over.
A switch takes effect where it stands, so that the first of two mistakes is the one that is told.
-/

namespace ListenerPorts.CommandLine

variable {α : Type}

/-- One use of a switch, with the word it brings. -/
structure Use (α : Type) where
  switch : Switch α
  word : Option String

def Use.apply (g : Grammar α) (u : Use α) (a : α) : Except Stop α :=
  match u.switch.effect, u.word with
  | .help, _ => .error (.help g.help)
  | .flag set, _ => .ok (set a)
  | .word set, word =>
    match set (word.getD "") a with
    | .ok a => .ok a
    | .error detail => .error (g.misused u.switch.label detail)

def applyAll (g : Grammar α) : List (Use α) → α → Except Stop α
  | [], a => .ok a
  | u :: us, a => do applyAll g us (← u.apply g a)

/-- The uses that one word makes of switches. -/
inductive Uses (α : Type) where
  /-- all of them are known -/
  | complete (uses : List (Use α))
  /-- after those uses a part of the word is left over -/
  | leaving (uses : List (Use α)) (word : String)
  /-- the last switch brings the next word -/
  | wanting (uses : List (Use α)) (switch : Switch α)

/-- The same with one use in front. -/
def Uses.cons (u : Use α) : Uses α → Uses α
  | complete us => complete (u :: us)
  | leaving us w => leaving (u :: us) w
  | wanting us s => wanting (u :: us) s

/-- The use of a switch that nothing is joined to. -/
def bareUse (s : Switch α) : Uses α :=
  if s.takesWord then .wanting [] s else .complete [⟨s, none⟩]

/-- Stops because a text is joined to a switch that brings no word. -/
def ignored (g : Grammar α) (s : Switch α) (text : List Char) : Stop :=
  g.misused s.label ("ignored explicit argument " ++ Text.quoted (.ofList text))

/-- The uses that a switch makes with a text joined to it. Several short switches may share one
dash. -/
def joinedUses (g : Grammar α) (s : Switch α) (short equals : Bool) :
    List Char → Except Stop (Uses α)
  | [] => if s.takesWord then .ok (.complete [⟨s, some ""⟩]) else .error (ignored g s [])
  | c :: cs =>
    if s.takesWord then .ok (.complete [⟨s, some (.ofList (c :: cs))⟩])
    else if !short || equals || c = '-' then .error (ignored g s (c :: cs))
    else
      Uses.cons ⟨s, none⟩ <$>
        match g.names.lookup (.ofList ['-', c]), cs with
        | none, cs => .ok (.leaving [] (.ofList ('-' :: c :: cs)))
        | some s', [] => .ok (bareUse s')
        | some s', '=' :: text => joinedUses g s' true true text
        | some s', c' :: text => joinedUses g s' true false (c' :: text)

def isShort (name : String) : Bool := (name.toList.drop 1).head? ≠ some '-'

/-- The uses that one word makes of switches, given the switch it begins with. -/
def usesOf (g : Grammar α) (s : Switch α) (name : String) : Option Joined → Except Stop (Uses α)
  | none => .ok (bareUse s)
  | some j => joinedUses g s (isShort name) j.equals j.text

/-- Whether a token is a word that is no switch. -/
def Token.isPlain (t : Token α) : Bool := match t.kind with | .plain => true | _ => false

def Token.isDashes (t : Token α) : Bool := match t.kind with | .dashes => true | _ => false

/-- The number of tokens that a slot takes after a word that it takes. -/
def Reach.more (r : Reach) (ts : List (Token α)) : Nat :=
  match r with
  | .one => (ts.takeWhile (·.isDashes)).length
  | .many => (ts.takeWhile fun t => t.isPlain || t.isDashes).length
  | .all => ts.length

/-- The number of tokens that a slot takes after the one it begins with, if it can begin there: with
a word, or with `--` and a word. -/
def Reach.from? (r : Reach) (t : Token α) (ts : List (Token α)) : Option Nat :=
  match t.kind, ts with
  | .plain, ts => some (r.more ts)
  | .dashes, t' :: ts' => if t'.isPlain then some (1 + r.more ts') else none
  | _, _ => none

/-- The words that a slot gets from tokens: the first `--` is not among them, unless they are all
for another program. -/
def Reach.words (r : Reach) (ts : List (Token α)) : List String :=
  let words := ts.map (·.word)
  match r with
  | .all => words
  | _ => words.erase "--"

/-- The value after the slot is filled from tokens. -/
def fillSlot (g : Grammar α) (ts : List (Token α)) (a : α) : Except Stop α :=
  match g.slot.fill (g.slot.reach.words ts) a with
  | .ok a => .ok a
  | .error (.unfit detail) => .error (g.misused g.slot.name detail)
  | .error (.stopped stop) => .error stop

/-- How far the reading of a command line has come: what was gathered, whether the slot is filled,
and the words that are left over. -/
structure Progress (α : Type) where
  value : α
  filled : Bool := false
  left : List String := []

def Progress.leave (p : Progress α) (word : String) : Progress α :=
  { p with left := p.left ++ [word] }

def Progress.use (g : Grammar α) (p : Progress α) (us : List (Use α)) :
    Except Stop (Progress α) := do
  return { p with value := ← applyAll g us p.value }

def advance (g : Grammar α) (p : Progress α) : List (Token α) → Except Stop (Progress α)
  | [] => .ok p
  | t :: ts =>
    match t.kind with
    | .stray => advance g (p.leave t.word) ts
    | .switch s name joined => do
      match ← usesOf g s name joined, ts with
      | .complete us, ts => advance g (← p.use g us) ts
      | .leaving us word, ts => advance g ((← p.use g us).leave word) ts
      | .wanting _ s, [] => throw (g.misused s.label "expected one argument")
      | .wanting us s, next :: ts =>
        if next.isPlain then advance g (← p.use g (us ++ [⟨s, some next.word⟩])) ts
        else throw (g.misused s.label "expected one argument")
    | _ =>
      match if p.filled then none else g.slot.reach.from? t ts with
      | some n => do
        let value ← fillSlot g (t :: ts.take n) p.value
        advance g { p with value, filled := true } (ts.drop n)
      | none => advance g (p.leave t.word) ts
termination_by ts => ts.length

/-- Reads words: what they say, and those of them that are left over. -/
def parseKnown (g : Grammar α) (start : α) (words : List String) :
    Except Stop (α × List String) := do
  let p ← advance g { value := start } (← tokens g words)
  if g.slot.needed && !p.filled then
    throw (g.misuse ("the following arguments are required: " ++ g.slot.name))
  return (p.value, p.left)

end ListenerPorts.CommandLine
